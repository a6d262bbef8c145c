namespace NativeFlow

/-!
# Kinds of values

* `Primitive`: the eight primitive types of Java, with their keyword and their descriptor letter.
* `Kind`: the kinds of values that cross the native interface, with their width in bits.
-/

/-- A primitive type of Java. -/
inductive Primitive where
  | boolean
  | byte
  | char
  | short
  | int
  | long
  | float
  | double
  deriving DecidableEq, Repr

namespace Primitive

/-- Every primitive type. -/
def all : List Primitive := [.boolean, .byte, .char, .short, .int, .long, .float, .double]

/-- The keyword of a primitive type. -/
def keyword : Primitive → String
  | .boolean => "boolean"
  | .byte => "byte"
  | .char => "char"
  | .short => "short"
  | .int => "int"
  | .long => "long"
  | .float => "float"
  | .double => "double"

/-- The letter that stands for a primitive type in a descriptor. -/
def letter : Primitive → Char
  | .boolean => 'Z'
  | .byte => 'B'
  | .char => 'C'
  | .short => 'S'
  | .int => 'I'
  | .long => 'J'
  | .float => 'F'
  | .double => 'D'

/-- The number of bits of a value. -/
def width : Primitive → Nat
  | .boolean | .byte => 8
  | .char | .short => 16
  | .int | .float => 32
  | .long | .double => 64

/-- The primitive type with a given letter. -/
def ofLetter? (c : Char) : Option Primitive := all.find? (·.letter = c)

/-- The primitive type with a given keyword. -/
def ofKeyword? (word : String) : Option Primitive := all.find? (·.keyword = word)

/-- Different primitive types have different letters. -/
@[simp] theorem ofLetter?_letter (p : Primitive) : ofLetter? p.letter = some p := by
  cases p <;> rfl

end Primitive

/-- The kind of a value that crosses the native interface. -/
inductive Kind where
  | void
  | primitive (type : Primitive)
  | object
  | string
  | array
  deriving DecidableEq, Repr

namespace Kind

/-- The number of bits of a value; references are as wide as a pointer. -/
def width (pointerBits : Nat) : Kind → Nat
  | .void => 0
  | .primitive type => type.width
  | .object | .string | .array => pointerBits

/-- The name of a kind, in lower case. -/
def name : Kind → String
  | .void => "void"
  | .primitive type => type.keyword
  | .object => "object"
  | .string => "string"
  | .array => "array"

end Kind

end NativeFlow
