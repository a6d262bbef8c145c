import NativeFlow.Call.Basic

namespace NativeFlow

/-!
# Classes, objects and arrays

* `Call.findClass`, `Call.objectClass`: classes by name and by object.
* `Call.allocObject`, `Call.newObject`: objects of a class. An object made from tainted arguments is
  tainted.
* `Call.newReference`: another reference to the same object.
* `Call.newObjectArray`, `Call.newPrimitiveArray`, `Call.arrayElement`: arrays and their elements.
  An element is as tainted as its array.
-/

/-- The class that every class extends. -/
def objectClass : String := "java/lang/Object"

/-- The note of a class value. -/
def Note.ofClass (className : String) : Note := .classIdentity { className }

/-- The note of an object that native code made. -/
def Note.ofObject (javaType : String) : Note := .object (.ofType .native javaType)

/-- The name of the class of a value. -/
def Value.classOf? (v : Value) : Option String :=
  (v.object?.map (·.javaType)).or (v.literal?.map fun _ => stringClass)

/-- The join of the taint of some values. -/
def joinTaint (values : List Value) : Taint :=
  (values.filterMap Value.taint?).foldl Taint.absorb .clean

/-- The type of an array whose elements are of a class. -/
def arrayOf (element : String) : String :=
  if element.toList.head? = some '[' then "[" ++ element else "[L" ++ element ++ ";"

/-- The class of the elements of an array type. -/
def elementOf (arrayType : String) : String :=
  match arrayType.toList with
  | '[' :: element =>
    match element with
    | 'L' :: rest =>
      if rest.getLast? = some ';' then String.ofList rest.dropLast else String.ofList element
    -- Elements that are arrays or primitive values have only the bracket in front.
    | _ => String.ofList element
  | _ => objectClass

namespace Call

/-- The class name of the argument at a position. -/
def classArg? (c : Call) (index : Nat) : Option String := (c.arg? index).bind Value.className?

/-- The class whose name the first argument points at. -/
def findClass (c : Call) : Effect :=
  c.returning? ((c.textArg? 0).map fun name => [.ofClass name])

/-- The class of an object. -/
def objectClass (c : Call) : Effect :=
  c.returning? (((c.arg? 0).bind Value.classOf?).map fun name => [.ofClass name])

/-- An object of a class. -/
def allocObject (c : Call) : Effect :=
  c.returning? ((c.classArg? 0).map fun name => [.ofObject name])

/-- An object of a class made by a constructor, which gets the arguments from the third on. -/
def newObject (c : Call) : Effect :=
  c.returning? ((c.classArg? 0).map fun name =>
    [(Note.ofObject name).absorb (joinTaint (c.args.drop 2))])

/-- A new reference to what the first argument refers to. -/
def newReference (c : Call) : Effect :=
  c.returning (((c.arg? 0).map (·.notes)).getD [])

/-- The storage behind the first argument, which is the argument itself. -/
def storage (c : Call) : Effect :=
  match c.args with
  | [] => c.fallback
  | _ :: _ => c.returning []

/-- An array of objects of the class that the second argument stands for. -/
def newObjectArray (c : Call) : Effect :=
  c.returning [.ofObject (arrayOf ((c.classArg? 1).getD NativeFlow.objectClass))]

/-- An array of primitive values. -/
def newPrimitiveArray (c : Call) (element : Primitive) : Effect :=
  c.returning [.ofObject (String.ofList ['[', element.letter])]

/-- An element of an array. -/
def arrayElement (c : Call) : Effect :=
  c.returning? (((c.arg? 0).bind Value.object?).map fun array =>
    [(Note.object (.ofType array.source (elementOf array.javaType))).absorb array.taint])

end Call

end NativeFlow
