import NativeFlow.Text.Numeral

namespace NativeFlow

/-!
# JSON values

* `Json`: the values of trace documents and reports. Objects keep their members in text order.
* `Json.compact`, `Json.pretty`: the text of a value, on one line or indented by two blanks.
* `Json.text?`, `Json.natural?`, `Json.list?`: a value read as a string, a number or an array.
-/

/-- A JSON value. Of the numbers only the natural ones are ever used, so all others are one. -/
inductive Json where
  | null
  | bool (value : Bool)
  | natural (value : Nat)
  | otherNumber
  | string (value : String)
  | array (items : List Json)
  | object (members : List (String × Json))
  deriving Inhabited

namespace Json

/-- The string that a value is. -/
def text? : Json → Option String
  | .string value => some value
  | _ => none

/-- The natural number below `bound` that a value is. -/
def natural? (bound : Nat) : Json → Option Nat
  | .natural value => if value < bound then some value else none
  | _ => none

/-- The truth value that a value is. -/
def bool? : Json → Option Bool
  | .bool value => some value
  | _ => none

/-- The items of a value that is an array, each read by `item`. -/
def list? {α : Type} (item : Json → Option α) : Json → Option (List α)
  | .array items => items.mapM item
  | _ => none

/-- A value that may be missing, as `null` when it is. -/
def ofOption {α : Type} (encode : α → Json) : Option α → Json
  | none => .null
  | some value => encode value

/-- An array of strings. -/
def strings (values : List String) : Json := .array (values.map .string)

/-! ### Text -/

/-- One character inside a quoted string. -/
def escape (c : Char) : String :=
  if c = '"' then "\\\""
  else if c = '\\' then "\\\\"
  else if c = '\n' then "\\n"
  else if c = '\r' then "\\r"
  else if c = '\t' then "\\t"
  else if c = '\x08' then "\\b"
  else if c = '\x0c' then "\\f"
  -- Control characters without a letter are written with four hexadecimal digits.
  else if c.toNat < 0x10 then "\\u000" ++ Numeral.hexadecimal c.toNat
  else if c.toNat < 0x20 then "\\u00" ++ Numeral.hexadecimal c.toNat
  else c.toString

/-- A string in quotes. -/
def quote (value : String) : String :=
  value.toList.foldl (fun text c => text ++ escape c) "\"" ++ "\""

/-- How the parts of a value are set apart: `none` puts all on one line, `some level` puts each
part on a line of its own with two blanks per level. -/
abbrev Layout := Option Nat

/-- The layout of the parts of a value. -/
def Layout.inner (layout : Layout) : Layout := layout.map (· + 1)

/-- A line break with its indentation, where the layout has any. -/
def Layout.newline : Layout → String
  | none => ""
  | some level => "\n" ++ String.ofList (List.replicate (2 * level) ' ')

/-- What follows a member's name. -/
def Layout.colon : Layout → String
  | none => ":"
  | some _ => ": "

mutual

/-- Appends the text of a value. -/
def write (layout : Layout) (text : String) : Json → String
  | .null => text ++ "null"
  | .bool true => text ++ "true"
  | .bool false => text ++ "false"
  | .natural value => text ++ Numeral.decimal value
  -- Only documents that were read have such numbers.
  | .otherNumber => text ++ "null"
  | .string value => text ++ quote value
  | .array [] => text ++ "[]"
  | .array (item :: items) =>
    writeItems layout
      (write layout.inner (text ++ "[" ++ layout.inner.newline) item) items ++ layout.newline ++ "]"
  | .object [] => text ++ "\x7b\x7d"
  | .object ((name, value) :: members) =>
    writeMembers layout
      (write layout.inner
        (text ++ "\x7b" ++ layout.inner.newline ++ quote name ++ layout.colon) value) members ++
      layout.newline ++ "\x7d"

/-- Appends the items of an array after the first. -/
def writeItems (layout : Layout) (text : String) : List Json → String
  | [] => text
  | item :: items =>
    writeItems layout (write layout.inner (text ++ "," ++ layout.inner.newline) item) items

/-- Appends the members of an object after the first. -/
def writeMembers (layout : Layout) (text : String) : List (String × Json) → String
  | [] => text
  | (name, value) :: members =>
    writeMembers layout
      (write layout.inner
        (text ++ "," ++ layout.inner.newline ++ quote name ++ layout.colon) value) members

end

/-- The text of a value on one line. -/
def compact (value : Json) : String := write none "" value

/-- The text of a value with a line for every item and member. -/
def pretty (value : Json) : String := write (some 0) "" value

end Json

end NativeFlow
