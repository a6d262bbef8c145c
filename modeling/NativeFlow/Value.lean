import NativeFlow.Note

namespace NativeFlow

/-!
# Values

* `Value`: a native handle with what is known about it.
* `Value.attachNote`: attaches a note; there is one of each kind at most.
* `Value.object?` and its like: the note of one kind.
* `Value.payload?`: what is kept of a value that is stored in a field or handed on as an extra.
-/

/-- A native value: a handle, its width, and notes in the order in which they were attached. -/
structure Value where
  handle : UInt64
  bits : Nat
  notes : List Note := []

namespace Value

/-- Attaches a note; one of the same kind gives up its place to it. -/
def attach (note : Note) : List Note → List Note
  | [] => [note]
  | other :: rest =>
    if other.tag = note.tag then note :: rest else other :: attach note rest

/-- Attaches a note to a value. -/
def attachNote (v : Value) (note : Note) : Value :=
  { v with notes := attach note v.notes }

/-- The class that a value stands for. -/
def class? (v : Value) : Option (ClassIdentity Note) :=
  v.notes.findSome? fun | .classIdentity identity => some identity | _ => none

/-- The object that a value refers to. -/
def object? (v : Value) : Option (ObjectIdentity Note) :=
  v.notes.findSome? fun | .object identity => some identity | _ => none

/-- The text that a value refers to. -/
def literal? (v : Value) : Option StringLiteral :=
  v.notes.findSome? fun | .string literal => some literal | _ => none

/-- The method that a value identifies. -/
def method? (v : Value) : Option MethodIdentity :=
  v.notes.findSome? fun | .method identity => some identity | _ => none

/-- The field that a value identifies. -/
def field? (v : Value) : Option FieldIdentity :=
  v.notes.findSome? fun | .field identity => some identity | _ => none

/-- The primitive value that a value is. -/
def primitive? (v : Value) : Option PrimitiveValue :=
  v.notes.findSome? fun | .primitive value => some value | _ => none

/-- The name of the class that a value stands for. -/
def className? (v : Value) : Option String := v.class?.map (·.className)

/-- The taint of a value: that of its object, or else that of its primitive value. -/
def taint? (v : Value) : Option Taint :=
  (v.object?.map (·.taint)).or (v.primitive?.map (·.taint))

/-- What is kept of a value that is stored: its object, or else its text, or else its primitive
value. -/
def payload? (v : Value) : Option Note :=
  (v.object?.map .object).or ((v.literal?.map .string).or (v.primitive?.map .primitive))

/-- Replaces the object that a value refers to. -/
def setObject (v : Value) (identity : ObjectIdentity Note) : Value :=
  { v with notes := attach (.object identity) v.notes }

/-- Replaces the class that a value stands for. -/
def setClass (v : Value) (identity : ClassIdentity Note) : Value :=
  { v with notes := attach (.classIdentity identity) v.notes }

end Value

end NativeFlow
