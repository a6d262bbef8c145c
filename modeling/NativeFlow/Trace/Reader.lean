import NativeFlow.Json.Reader
import NativeFlow.Trace.Basic

namespace NativeFlow

/-!
# Trace documents

A trace is written as a JSON object with the members `pointer_bits`, `memory`, `inputs` and
`calls`, or as an array of these four in this order. What is left out is empty, and a pointer has
64 bits.

* `Trace.ofText`: the trace that a document describes.

The parts of a region, an input or a call that have several forms are gathered first and looked at
when the object is complete. Of several forms of the contents of a region, or of the target of a
call, the one that comes first in the text counts.
-/

namespace Trace

open Reader

/-- The deepest nesting of arrays and objects that is accepted in a value that is kept. -/
def nestingLimit : Nat := 127

/-- How deep a member of a region, an input or a call may be nested: the document, the list and the
object itself are around it. -/
def memberDepth : Nat := nestingLimit - 3

/-- How deep an argument may be nested: the list of arguments is around it as well. -/
def argumentDepth : Nat := nestingLimit - 4

/-- A number of 32 bits. -/
def word32 : Reader UInt32 := do return UInt32.ofNat (← natural 0x100000000)

/-- A number of 64 bits. -/
def word64 : Reader UInt64 := do return UInt64.ofNat (← natural Written.bound)

/-- Goes on with a result, or refuses the value at hand. -/
def orMismatch {α : Type} : Option α → Reader α
  | some result => pure result
  | none => mismatch

/-! ### Members that are gathered -/

/-- Members in text order reversed: the latest comes first. -/
abbrev Gathered := List (String × Json)

namespace Gathered

/-- The values of the members with a name, latest first. -/
def valuesOf (members : Gathered) (name : String) : List Json :=
  members.filterMap fun (other, value) => if other = name then some value else none

/-- The value of a member that has to be there once. -/
def required? {α : Type} (members : Gathered) (name : String) (read : Json → Option α) : Option α :=
  match members.valuesOf name with
  | [value] => read value
  | _ => none

/-- The value of a member that may be there once. -/
def withDefault? {α : Type} (members : Gathered) (name : String) (default : α)
    (read : Json → Option α) : Option α :=
  match members.valuesOf name with
  | [] => some default
  | [value] => read value
  | _ => none

/-- The first member in text order for whose name there is a reading, as it is read. -/
def firstForm? {α : Type} (members : Gathered) (form : String → Option (Json → Option α)) :
    Option α :=
  -- Members are kept latest first, so the first in the text is the last of them.
  match members.reverse.findSome? fun (name, value) => (form name).map fun read => read value with
  | some result => result
  | none => none

end Gathered

/-- Reads on behind the name of a member that is gathered. -/
def gather (members : Gathered) (name : String) : Reader Gathered := do
  colon
  return (name, ← value memberDepth) :: members

/-- Reads a member that is looked at on its own; it must not be there twice. -/
def single {α : Type} (previous : Option α) (name : String) (reader : Reader α) :
    Reader (Option α) := do
  if previous.isSome then mismatch
  colon
  return some (← within (.key name) reader)

/-! ### Memory -/

/-- The number below `bound` that a value is, as a word. -/
def number? {α : Type} (bound : Nat) (ofNat : Nat → α) (value : Json) : Option α :=
  (value.natural? bound).map ofNat

/-- The forms of the contents of a region. -/
def contentsForm : String → Option (Json → Option RegionContents)
  | "utf8" => some fun value => value.text?.map .text
  | "bytes" => some fun value => (value.list? (number? 0x100 UInt8.ofNat)).map .bytes
  | "words" => some fun value => (value.list? (number? Written.bound UInt64.ofNat)).map .words
  | _ => none

/-- A region. -/
def region : Reader Region := do
  let (address, members) ← object member (none, [])
  orMismatch do
    let address ← address
    let contents ← Gathered.firstForm? members contentsForm
    return { address, contents }
where
  /-- Takes in one member. -/
  member : Option UInt64 × Gathered → String → Reader (Option UInt64 × Gathered)
    | (address, members), "address" => return (← single address "address" word64, members)
    | (address, members), name => return (address, ← gather members name)

/-! ### Inputs -/

/-- The kinds of inputs. -/
inductive InputKind where
  | object
  | classObject
  | string
  | primitive

namespace InputKind

/-- The kinds of inputs, in the order of their numbers. -/
def all : List InputKind := [.object, .classObject, .string, .primitive]

/-- The name of a kind. -/
def name : InputKind → String
  | .object => "object"
  | .classObject => "class"
  | .string => "string"
  | .primitive => "primitive"

/-- The kind with a name or a number. -/
def ofJson? : Json → Option InputKind
  | .string word => all.find? (·.name = word)
  | .natural index => all[index]?
  | _ => none

/-- The value that the members of an input of a kind describe. -/
def value? (members : Gathered) : InputKind → Option InputValue
  | .object => do
    let javaType ← members.required? "java_type" Json.text?
    let tainted ← members.withDefault? "tainted" false Json.bool?
    let categories ← members.withDefault? "categories" [] (Json.list? Json.text?)
    return .object javaType tainted categories
  | .classObject => do
    let className ← members.required? "class_name" Json.text?
    return .classObject className
  | .string => do
    let value ← members.required? "value" Json.text?
    return .string value
  | .primitive => do
    let javaType ← members.required? "java_type" Json.text?
    let tainted ← members.withDefault? "tainted" false Json.bool?
    let categories ← members.withDefault? "categories" [] (Json.list? Json.text?)
    return .primitive javaType tainted categories

end InputKind

/-- An input. -/
def input : Reader Input := do
  let (name, members) ← object member (none, [])
  orMismatch do
    let name ← name
    let kind ← Gathered.required? members "kind" InputKind.ofJson?
    let value ← kind.value? members
    return { name, value }
where
  /-- Takes in one member. -/
  member : Option String × Gathered → String → Reader (Option String × Gathered)
    | (name, members), "name" => return (← single name "name" text, members)
    | (name, members), other => return (name, ← gather members other)

/-! ### Calls -/

/-- The argument that a value describes: a number, or an object that names a value or gives an
address. -/
def argument? : Json → Option Argument
  | .natural n => (number? Written.bound UInt64.ofNat (.natural n)).map .literal
  | .object members =>
    -- A name counts before an address.
    (Gathered.required? members "ref" fun value => value.text?.map .reference).or
      (Gathered.required? members "address" fun value =>
        (number? Written.bound UInt64.ofNat value).map .address)
  | _ => none

/-- An argument. -/
def argument : Reader Argument := do orMismatch (argument? (← value argumentDepth))

/-- The forms of the target of a call. -/
def targetForm : String → Option (Json → Option Target)
  | "function" => some fun value => value.text?.map .function
  | "symbol" => some fun value => value.text?.map .symbol
  | "slot" => some fun value => (number? Written.bound UInt64.ofNat value).map .slot
  | _ => none

/-- The members of a call as they have been read so far. -/
structure CallDraft where
  args : Option (List Argument) := none
  bind : Option (Option String) := none
  members : Gathered := []

/-- A call. -/
def recordedCall : Reader RecordedCall := do
  let draft ← object member {}
  orMismatch do
    let target ← Gathered.firstForm? draft.members targetForm
    -- Without arguments there are none, and without a name the result gets none.
    return { target, args := draft.args.getD [], bind := draft.bind.getD none }
where
  /-- Takes in one member. -/
  member (draft : CallDraft) : String → Reader CallDraft
    | "args" => return { draft with args := ← single draft.args "args" (array argument) }
    | "bind" => return { draft with bind := ← single draft.bind "bind" (optional text) }
    | name => return { draft with members := ← gather draft.members name }

/-! ### Documents -/

/-- The parts of a trace as they have been read so far. -/
structure Draft where
  pointerBits : Option UInt32 := none
  memory : Option (List Region) := none
  inputs : Option (List Input) := none
  calls : Option (List RecordedCall) := none

/-- The trace with what has been read and the rest left out. -/
def Draft.finish (draft : Draft) : Trace where
  pointerBits := draft.pointerBits.getD 64
  memory := draft.memory.getD []
  inputs := draft.inputs.getD []
  calls := draft.calls.getD []

/-- Takes in one member of a document; unknown ones are skipped. -/
def documentMember (draft : Draft) : String → Reader Draft
  | "pointer_bits" =>
    return { draft with pointerBits := ← single draft.pointerBits "pointer_bits" word32 }
  | "memory" => return { draft with memory := ← single draft.memory "memory" (array region) }
  | "inputs" => return { draft with inputs := ← single draft.inputs "inputs" (array input) }
  | "calls" => return { draft with calls := ← single draft.calls "calls" (array recordedCall) }
  -- Whatever else is there only has to be JSON.
  | _ => do
    colon
    skip
    return draft

/-- The end of an array in which no further item is wanted. -/
def endOfItems : Reader Unit := do
  match ← token? with
  | none => refuse .ended
  | some c => if c = ']' then advance else refuse .malformed

/-- The four parts of a trace as the items of an array. -/
def documentItems : Reader Draft := do
  -- The array may end in front of any part, and the rest is left out.
  unless ← nextItem true do return {}
  let draft : Draft := { pointerBits := some (← within (.index 0) word32) }
  unless ← nextItem false do return draft
  let draft := { draft with memory := some (← within (.index 1) (array region)) }
  unless ← nextItem false do return draft
  let draft := { draft with inputs := some (← within (.index 2) (array input)) }
  unless ← nextItem false do return draft
  let draft := { draft with calls := some (← within (.index 3) (array recordedCall)) }
  endOfItems
  return draft

/-- A trace document. -/
def document : Reader Trace := do
  match ← token? with
  | some '[' => do
    advance
    return (← documentItems).finish
  | _ => return (← object documentMember {}).finish

/-- The trace that a text describes. What follows the document is not looked at. -/
def ofText (text : String) : Except ReadError Trace :=
  (document text.toList).map Prod.fst

end Trace

end NativeFlow
