namespace NativeFlow

/-!
# Files

* `FileSystem`: how paths look to a run, and whether a file can be made at one.
* `FileSystem.ofFiles`: a working directory that holds the given files and nothing else.
* `FileError.message`: why a path cannot be used.
-/

/-- Why a path cannot be used. -/
inductive FileError where
  | notFound
  | notDirectory
  | isDirectory
  | nameTooLong
  /-- No path has a zero byte in it. -/
  | zeroByte
  | other (text : String)
  deriving DecidableEq, Repr

/-- The wording of an error. -/
def FileError.message : FileError → String
  | .notFound => "No such file or directory (os error 2)"
  | .notDirectory => "Not a directory (os error 20)"
  | .isDirectory => "Is a directory (os error 21)"
  | .nameTooLong => "File name too long (os error 36)"
  | .zeroByte => "file name contained an unexpected NUL byte"
  | .other text => text

/-- What is found at a path. -/
inductive FileState where
  | missing (error : FileError)
  | directory
  | file (bytes : List UInt8)

/-- How paths look to a run. -/
structure FileSystem where
  state : String → FileState
  /-- Whether a file can be made at a path. -/
  create : String → Except FileError Unit

namespace FileSystem

/-! ### Paths -/

/-- The largest number of bytes of a name. -/
def maxNameLength : Nat := 255

/-- The largest number of bytes of a path. -/
def maxPathLength : Nat := 4095

/-- The names that a path goes through. An empty last one stands for a slash at the end. -/
def components (path : String) : List String :=
  (path.toList.foldr (fun c parts =>
    match c, parts with
    | '/', parts => [] :: parts
    | c, part :: parts => (c :: part) :: parts
    | c, [] => [[c]]) [[]]).map String.ofList

/-- Why a path cannot even be looked up. -/
def fault? (path : String) : Option FileError :=
  if path = "" then some .notFound
  else if path.toList.any fun c => c.toNat = 0 then some .zeroByte
  else if maxPathLength < path.utf8ByteSize then some .nameTooLong
  else none

/-- The names that lead to a place from the working directory. A first name `/` stands for the root
directory, and each leading `..` for one step up. -/
abbrev Place := List String

/-- The root directory, whose name no other directory can have. -/
def root : Place := ["/"]

/-- One step up; there is none from the root directory. -/
def parent (place : Place) : Place :=
  if place = root then root
  else if place.getLast?.all (· = "..") then place ++ [".."]
  else place.dropLast

/-- Where a path starts. -/
def start (path : String) : Place := if path.toList.head? = some '/' then root else []

/-- One step along a path. -/
def advance (place : Place) (name : String) : Place :=
  if name = "" ∨ name = "." then place
  else if name = ".." then parent place
  else place ++ [name]

/-- The place that a path leads to if all names on the way are directories. -/
def place (path : String) : Place := (components path).foldl advance (start path)

/-! ### Trees -/

/-- Files and directories by their places. A directory with something in it need not be listed, and
neither need those that the working directory is in. -/
structure Tree where
  files : List (Place × List UInt8)
  directories : List Place

/-- What a tree holds under a directory and a name. -/
def child (tree : Tree) (directory : Place) (name : String) : FileState :=
  let place := directory ++ [name]
  if maxNameLength < name.utf8ByteSize then .missing .nameTooLong
  else
    match tree.files.find? (·.1 = place) with
    | some (_, bytes) => .file bytes
    | none =>
      if place ∈ tree.directories || tree.files.any fun entry => place.isPrefixOf entry.1 then
        .directory
      else .missing .notFound

/-- Follows names from a directory of a tree. -/
def follow (tree : Tree) (directory : Place) : List String → FileState
  | [] => .directory
  | name :: rest =>
    if name = "" ∨ name = "." ∨ name = ".." then follow tree (advance directory name) rest
    else
      match child tree directory name with
      | .missing error => .missing error
      | .directory => follow tree (advance directory name) rest
      -- A file can only be the end of a path.
      | .file bytes => if rest = [] then .file bytes else .missing .notDirectory

/-- What a tree holds at a path. -/
def lookup (tree : Tree) (path : String) : FileState :=
  match fault? path with
  | some error => .missing error
  | none => follow tree (start path) (components path)

/-- Whether a file can be made at a path of a tree: its directory has to be there, and it must not
be a directory itself or be written like one. -/
def creatable (tree : Tree) (path : String) : Except FileError Unit :=
  match fault? path with
  | some error => .error error
  | none =>
    let parts := components path
    -- Slashes at the end are no names, but they ask for a directory.
    let names := (parts.reverse.dropWhile (· = "")).reverse
    match follow tree (start path) names.dropLast with
    | .missing error => .error error
    | .file _ => .error .notDirectory
    | .directory =>
      if names.length < parts.length then .error .isDirectory
      else
        match follow tree (start path) names with
        | .directory => .error .isDirectory
        | .file _ | .missing .notFound => .ok ()
        | .missing error => .error error

/-! ### Working directories -/

/-- The empty file that every system has. -/
def emptyFile : Place × List UInt8 := (root ++ ["dev", "null"], [])

/-- The directories that every system has at its root. -/
def standardDirectories : List Place :=
  ["bin", "boot", "dev", "etc", "home", "lib", "media", "mnt", "opt", "proc", "root", "run", "sbin",
    "srv", "sys", "tmp", "usr", "var"].map fun name => root ++ [name]

/-- A working directory that holds the given files and nothing else; of two files at the same place
the later one is there. -/
def ofFiles (files : List (String × List UInt8)) : FileSystem :=
  -- Files are searched from the front, so the latest goes first.
  let given := files.reverse.map fun (path, bytes) => (place path, bytes)
  let tree := { files := given ++ [emptyFile], directories := standardDirectories }
  { state := lookup tree, create := creatable tree }

end FileSystem

end NativeFlow
