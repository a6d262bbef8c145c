import NativeFlow.Command.Files
import NativeFlow.Command.Options
import NativeFlow.Report.Document
import NativeFlow.Trace.Reader

namespace NativeFlow

/-!
# Runs

* `run`: replays the traces that a command line names and reports on them. All traces have to exist
  before the catalog is loaded, and the catalog has to be loaded before the first replay.
* `RunError.message`: why a run fails. No report is made then.
-/

/-- Why the contents of a file cannot be used. -/
inductive ContentError where
  | file (error : FileError)
  | notUtf8
  deriving DecidableEq

/-- The wording of an error. -/
def ContentError.message : ContentError → String
  | .file error => error.message
  | .notUtf8 => "stream did not contain valid UTF-8"

/-- The wording of a line that cannot be read. -/
def catalogLineMessage (line : Nat) (error : ContentError) : String :=
  "read catalog line " ++ Numeral.decimal line ++ ": " ++ error.message

/-- Why a run fails. -/
inductive RunError where
  | traceNotFound (path : String)
  | catalogNotOpened (path : String) (error : FileError)
  | catalogNotRead (path : String) (line : Nat) (error : ContentError)
  | traceNotRead (path : String) (error : ContentError)
  | traceNotParsed (path : String) (error : ReadError)
  | traceNotReplayed (path : String) (error : ReplayError)
  | outputNotOpened (path : String) (error : FileError)
  deriving DecidableEq

/-- The wording of an error. -/
def RunError.message : RunError → String
  | .traceNotFound path => "trace not found: " ++ path
  | .catalogNotOpened path error => "failed to open " ++ path ++ ": " ++ error.message
  | .catalogNotRead path line error =>
    "failed to read " ++ path ++ ": " ++ catalogLineMessage line error
  | .traceNotRead path error => "failed to read " ++ path ++ ": " ++ error.message
  | .traceNotParsed path _ => "failed to parse " ++ path
  | .traceNotReplayed path error => "failed to replay " ++ path ++ ": " ++ error.message
  | .outputNotOpened path error => "failed to open " ++ path ++ ": " ++ error.message

/-- Whether there is anything at a path. -/
def FileState.exists : FileState → Bool
  | .missing _ => false
  | _ => true

/-- Finds the first trace that does not exist. -/
def checkTraces (files : FileSystem) (paths : List String) : Except RunError Unit :=
  match paths.find? fun path => !(files.state path).exists with
  | some path => .error (.traceNotFound path)
  | none => .ok ()

/-- Loads the catalog of a run; without one no method is known. -/
def loadCatalog (files : FileSystem) : Option String → Except RunError Catalog
  | none => .ok {}
  | some path =>
    match files.state path with
    | .missing error => .error (.catalogNotOpened path error)
    -- A directory can be opened; it is its first line that cannot be read.
    | .directory => .error (.catalogNotRead path 1 (.file .isDirectory))
    | .file bytes =>
      match Catalog.ofBytes bytes with
      | .error line => .error (.catalogNotRead path line .notUtf8)
      | .ok catalog => .ok catalog

/-- Replays a trace file. -/
def replayFile (files : FileSystem) (catalog : Catalog) (path : String) :
    Except RunError ReplayedTrace :=
  match files.state path with
  | .missing error => .error (.traceNotRead path (.file error))
  | .directory => .error (.traceNotRead path (.file .isDirectory))
  | .file bytes =>
    match Utf8.decode? bytes with
    | none => .error (.traceNotRead path .notUtf8)
    | some text =>
      match Trace.ofText text with
      | .error error => .error (.traceNotParsed path error)
      | .ok trace =>
        match trace.replay catalog with
        | .error error => .error (.traceNotReplayed path error)
        | .ok replay => .ok { uri := path, length := bytes.length, replay }

/-- The report that a run makes. -/
def report (files : FileSystem) (options : Options) : Except RunError ReportDocument := do
  checkTraces files options.traces
  let catalog ← loadCatalog files options.catalog
  let traces ← options.traces.mapM (replayFile files catalog)
  return .ofTraces traces catalog.size

/-- Whether a path is a dash, with nothing behind it that leads elsewhere. -/
def FileSystem.isDash (path : String) : Bool :=
  match components path with
  | "-" :: rest => rest.all fun name => name = "" || name = "."
  | _ => false

/-- The file that the report goes to; without one, or with a dash, it goes to standard output. -/
def Options.outputFile? (options : Options) : Option String :=
  options.output.filter fun path => !FileSystem.isDash path

/-- A run: its report, once the file for it could be opened. -/
def run (files : FileSystem) (options : Options) : Except RunError ReportDocument := do
  let document ← report files options
  match options.outputFile? with
  | none => return document
  | some path =>
    match files.create path with
    | .ok () => return document
    | .error error => .error (.outputNotOpened path error)

end NativeFlow
