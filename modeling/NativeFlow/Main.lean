import NativeFlow.Command.Run

namespace NativeFlow.Main

/-!
# The program

Reads the files that a command line names, makes the run, and writes the report.
-/

/-- The help text. -/
def help : String := "\n".intercalate [
  "Replay native JNI call traces through a taint model and report SARIF.",
  "",
  "Usage: jnitaint [OPTIONS] --trace <PATH>",
  "",
  "Options:",
  "      --trace <PATH>    JSON trace of one native execution path; repeatable",
  "      --catalog <PATH>  Taint source/sink catalog",
  "      --output <PATH>   SARIF output path; `-` or absent writes to stdout",
  "      --otel <URL>      OTLP/HTTP collector endpoint",
  "      --quiet           ",
  "      --timing          ",
  "  -h, --help            Print help",
  "  -V, --version         Print version"]

/-- What is wrong with a command line. -/
def usageMessage : UsageError → String
  | .missingArgument => "the following required arguments were not provided: --trace <PATH>"
  | .invalidValue => "a value is required but none was supplied"
  | .unknownArgument => "unexpected argument found"
  | .repeatedOption => "an argument cannot be used multiple times"
  | .tooManyValues => "unexpected value found; no more were expected"
  | .help => help
  | .version => toolName ++ " " ++ toolVersion

/-- The codes of a name that is too long, which the system layer may count down from zero. -/
def nameTooLongCodes : List UInt32 := [36, 4294967260]

/-- The error behind a failed file operation. -/
def fileError (error : IO.Error) : FileError :=
  match error with
  | .noFileOrDirectory _ _ _ => .notFound
  | .inappropriateType _ code _ =>
    if code = 21 then .isDirectory else if code = 20 then .notDirectory else .other error.toString
  | .invalidArgument _ code _ =>
    if code ∈ nameTooLongCodes then .nameTooLong else .other error.toString
  | _ => .other error.toString

/-- What is found at a path. -/
def fileState (path : String) : IO FileState := do
  try
    let bytes ← IO.FS.readBinFile path
    return .file bytes.toList
  catch error =>
    match fileError error with
    | .isDirectory => return .directory
    | error => return .missing error

/-- The files that a run reads. -/
def gatherFiles (options : Options) : IO FileSystem := do
  let states ← (options.traces ++ options.catalog.toList).mapM fun path => do
    return (path, ← fileState path)
  return {
    state := fun path => ((states.find? (·.1 = path)).map (·.2)).getD (.missing .notFound)
    create := fun _ => .ok () }

/-- Writes a report to its place. -/
def deliver (options : Options) (text : String) : IO (Except RunError Unit) := do
  match options.outputFile? with
  | none =>
    IO.print text
    return .ok ()
  | some path =>
    try
      IO.FS.writeFile path text
      return .ok ()
    catch error => return .error (.outputNotOpened path (fileError error))

/-- The line that tells how long a run took. -/
def timingLine (document : ReportDocument) (milliseconds : Nat) : String :=
  let summary := document.summary
  "timing: total_ms=" ++ Numeral.decimal milliseconds ++
    " traces=" ++ Numeral.decimal summary.traceCount ++
    " calls=" ++ Numeral.decimal summary.coverage.total ++
    " fallbacks=" ++ Numeral.decimal summary.coverage.fallback ++
    " aborted=" ++ Numeral.decimal summary.aborted.length

/-- Reports a failed run. -/
def fail (error : RunError) : IO UInt32 := do
  IO.eprintln ("Error: " ++ error.message)
  return 1

/-- Makes the run that a command line asks for. -/
def execute (arguments : List String) (options : Options) : IO UInt32 := do
  let files ← gatherFiles options
  let started ← IO.monoMsNow
  match run files options with
  | .error error => fail error
  | .ok document =>
    let milliseconds := (← IO.monoMsNow) - started
    match ← deliver options (document.text (some { arguments, milliseconds })) with
    | .error error => fail error
    | .ok () =>
      if options.timing && !options.quiet then IO.eprintln (timingLine document milliseconds)
      return 0

/-- Does what a command line asks for; the result is the exit status. -/
def program (arguments : List String) : IO UInt32 := do
  match Options.ofArguments arguments with
  | .ok options => execute (toolName :: arguments) options
  | .error .help =>
    IO.println help
    return 0
  | .error .version =>
    IO.println (usageMessage .version)
    return 0
  | .error error =>
    IO.eprintln ("error: " ++ usageMessage error)
    return 2

end NativeFlow.Main

/-- The program. -/
def main (arguments : List String) : IO UInt32 := NativeFlow.Main.program arguments
