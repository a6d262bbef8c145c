namespace NativeFlow

/-!
# Command line

* `Options`: what a command line asks for.
* `Options.ofArguments`: reads a command line.
* `UsageError`: why a command line is refused. Requests for help and for the version count as such.

An option with a value is settled only when the next option or the end of the line is reached, so an
argument that is not known is noticed before a value that is missing.
-/

/-- Why a command line is refused. -/
inductive UsageError where
  /-- No trace is given. -/
  | missingArgument
  /-- An option has no value, or an empty one. -/
  | invalidValue
  | unknownArgument
  /-- An option that is allowed once is repeated. -/
  | repeatedOption
  /-- A switch is given a value. -/
  | tooManyValues
  | help
  | version
  deriving DecidableEq, Repr

/-- What a command line asks for. -/
structure Options where
  traces : List String := []
  catalog : Option String := none
  output : Option String := none
  collector : Option String := none
  quiet : Bool := false
  timing : Bool := false
  deriving DecidableEq, Repr

/-- An option that takes a value. -/
inductive ValueOption where
  | trace
  | catalog
  | output
  | collector
  deriving DecidableEq, Repr

/-- An option that takes none. -/
inductive Switch where
  | quiet
  | timing
  | help
  | version
  deriving DecidableEq, Repr

/-- The value options by name. -/
def ValueOption.ofName? : String → Option ValueOption
  | "trace" => some .trace
  | "catalog" => some .catalog
  | "output" => some .output
  | "otel" => some .collector
  | _ => none

/-- The switches by name. -/
def Switch.ofName? : String → Option Switch
  | "quiet" => some .quiet
  | "timing" => some .timing
  | "help" => some .help
  | "version" => some .version
  | _ => none

/-- The switches by letter. -/
def Switch.ofLetter? : Char → Option Switch
  | 'h' => some .help
  | 'V' => some .version
  | _ => none

namespace Options

/-- Gives an option that is allowed once a value that names a file. -/
def once (previous : Option String) (value : String) : Except UsageError (Option String) :=
  if previous.isSome then .error .repeatedOption
  else if value = "" then .error .invalidValue
  else .ok (some value)

/-- Gives an option its value. -/
def assign (o : Options) (option : ValueOption) (value? : Option String) :
    Except UsageError Options :=
  match value? with
  | none => .error .invalidValue
  | some value =>
    match option with
    | .trace =>
      if value = "" then .error .invalidValue else .ok { o with traces := o.traces ++ [value] }
    | .catalog => (once o.catalog value).map fun catalog => { o with catalog }
    | .output => (once o.output value).map fun output => { o with output }
    -- Any text may name a collector, also an empty one.
    | .collector =>
      if o.collector.isSome then .error .repeatedOption
      else .ok { o with collector := some value }

/-- Turns a switch on. -/
def switchOn (o : Options) : Switch → Except UsageError Options
  | .quiet => if o.quiet then .error .repeatedOption else .ok { o with quiet := true }
  | .timing => if o.timing then .error .repeatedOption else .ok { o with timing := true }
  | .help => .error .help
  | .version => .error .version

/-- A value option that is not settled yet, with its value if that has been seen. -/
abbrev Waiting := Option (ValueOption × Option String)

/-- Settles the option that waits. -/
def settle (o : Options) : Waiting → Except UsageError Options
  | none => .ok o
  | some (option, value?) => o.assign option value?

/-- How an argument looks. -/
inductive Shape where
  /-- What follows has no options. -/
  | separator
  /-- A long option, with the value behind its equals sign. -/
  | long (name : String) (value? : Option String)
  /-- Short options, by their first letter. -/
  | short (letter : Char)
  | plain

/-- How an argument looks; a single dash is a plain one. -/
def shape (argument : String) : Shape :=
  match argument.toList with
  | ['-', '-'] => .separator
  | '-' :: '-' :: rest =>
    let name := String.ofList (rest.takeWhile (· ≠ '='))
    match rest.dropWhile (· ≠ '=') with
    | [] => .long name none
    | _ :: value => .long name (some (String.ofList value))
  | '-' :: letter :: _ => .short letter
  | _ => .plain

/-- Reads the arguments from a place on, with the option that waits there. -/
def read (o : Options) (waiting : Waiting) : List String → Except UsageError Options
  | [] => o.settle waiting
  | argument :: rest =>
    match shape argument with
    -- There are no arguments but options, so nothing may follow the separator.
    | .separator => if rest.isEmpty then o.settle waiting else .error .unknownArgument
    | .long name value? =>
      match ValueOption.ofName? name, Switch.ofName? name with
      | some option, _ =>
        -- What waits comes earlier in the line, so its fault counts first.
        match o.settle waiting with
        | .error error => .error error
        | .ok o =>
          match value? with
          | none => read o (some (option, none)) rest
          | some value =>
            match o.assign option (some value) with
            | .error error => .error error
            | .ok o => read o none rest
      | none, some switch =>
        if value?.isSome then .error .tooManyValues
        else
          match (o.settle waiting).bind (·.switchOn switch) with
          | .error error => .error error
          | .ok o => read o none rest
      | none, none => .error .unknownArgument
    | .short letter =>
      match Switch.ofLetter? letter with
      | some switch =>
        match (o.settle waiting).bind (·.switchOn switch) with
        | .error error => .error error
        | .ok o => read o none rest
      | none => .error .unknownArgument
    | .plain =>
      match waiting with
      -- Only an option without a value yet has use for a plain argument.
      | some (option, none) => read o (some (option, some argument)) rest
      | _ => .error .unknownArgument

/-- Reads a command line; at least one trace has to be given. -/
def ofArguments (arguments : List String) : Except UsageError Options :=
  match read {} none arguments with
  | .error error => .error error
  | .ok o => if o.traces.isEmpty then .error .missingArgument else .ok o

end Options

end NativeFlow
