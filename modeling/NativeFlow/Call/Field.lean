import NativeFlow.Call.Basic
import NativeFlow.Descriptor

namespace NativeFlow

/-!
# Field access

* `ObjectIdentity.readField`, `ClassIdentity.readField`: reads a field. A field that has no value
  yet gets one of its type, which is tainted as its owner demands.
* `ObjectIdentity.writeField`, `ClassIdentity.writeField`: gives a field a value.
* `Call.getField`, `Call.setField`: the same through the owner that is the first argument.
-/

/-- A field by its name and its type. -/
def fieldKey (name : String) (type : JavaType) : FieldKey := ⟨name, type.name⟩

/-- Reads a field of a table; a missing value is made up with the given source and taint. -/
def FieldTable.read (table : FieldTable Note) (name : String) (type : JavaType)
    (source : Provenance) (taint : Taint) : Option (Note × FieldTable Note) :=
  match table.get? (fieldKey name type) with
  | some value => some (value, table)
  | none =>
    (type.note? source).map fun fresh =>
      let value := fresh.absorb taint
      (value, table.set (fieldKey name type) value)

namespace ObjectIdentity

/-- The taint of a field value that is made up: what comes with an argument is sensitive, and the
taint of the object itself goes with it. -/
def missTaint (o : ObjectIdentity Note) : Taint :=
  (if o.source = .argument then Taint.of .argumentField [sensitiveInfo] else .clean).absorb o.taint

/-- Reads a field of an object. -/
def readField (o : ObjectIdentity Note) (name : String) (type : JavaType) :
    Option (Note × ObjectIdentity Note) :=
  (o.fields.read name type .objectField o.missTaint).map fun (value, fields) =>
    (value, { o with fields })

/-- Gives a field of an object a value. -/
def writeField (o : ObjectIdentity Note) (name : String) (type : JavaType)
    (value : Note) : ObjectIdentity Note :=
  { o with fields := o.fields.set (fieldKey name type) value }

end ObjectIdentity

namespace ClassIdentity

/-- The taint of a static field value that is made up. -/
def missTaint : Taint := Taint.of .classField [sensitiveInfo]

/-- Reads a static field. -/
def readField (k : ClassIdentity Note) (name : String) (type : JavaType) :
    Option (Note × ClassIdentity Note) :=
  (k.fields.read name type .classField missTaint).map fun (value, fields) =>
    (value, { k with fields })

/-- Gives a static field a value. -/
def writeField (k : ClassIdentity Note) (name : String) (type : JavaType)
    (value : Note) : ClassIdentity Note :=
  { k with fields := k.fields.set (fieldKey name type) value }

end ClassIdentity

namespace Value

/-- Reads a field of the class or the object that a value stands for. -/
def readField (v : Value) (isStatic : Bool) (name : String) (type : JavaType) :
    Option (Note × Value) :=
  if isStatic then
    (v.class?.bind (·.readField name type)).map fun (value, owner) => (value, v.setClass owner)
  else
    (v.object?.bind (·.readField name type)).map fun (value, owner) => (value, v.setObject owner)

/-- Gives a field of the class or the object that a value stands for a value. -/
def writeField (v : Value) (isStatic : Bool) (name : String) (type : JavaType)
    (value : Note) : Option Value :=
  if isStatic then v.class?.map fun owner => v.setClass (owner.writeField name type value)
  else v.object?.map fun owner => v.setObject (owner.writeField name type value)

end Value

namespace Call

/-- The name and the type of the field that the second argument identifies. -/
def fieldArg? (c : Call) : Option (String × JavaType) :=
  ((c.arg? 1).bind Value.field?).bind fun field =>
    match JavaType.ofText field.signature with
    | .ok type => some (field.fieldName, type)
    | .error _ => none

/-- Reads a field of the first argument. -/
def getField (c : Call) (isStatic : Bool) : Effect :=
  match c.fieldArg?, c.args with
  | some (name, type), owner :: rest =>
    match owner.readField isStatic name type with
    | some (value, owner) => { c.returning [value] with args := owner :: rest }
    | none => c.fallback
  | _, _ => c.fallback

/-- What is stored of the third argument; a value of which nothing is known is stored as a new one
of the field's type. -/
def storedArg? (c : Call) (type : JavaType) : Option Note :=
  ((c.arg? 2).bind Value.payload?).or (type.note? .native)

/-- Gives a field of the first argument the value of the third. -/
def setField (c : Call) (isStatic : Bool) : Effect :=
  match c.fieldArg?, c.args with
  | some (name, type), owner :: rest =>
    match c.storedArg? type with
    -- There is nothing to store, so the field stays as it is.
    | none => c.returning []
    | some value =>
      match owner.writeField isStatic name type value with
      | some owner => { c.returning [] with args := owner :: rest }
      | none => c.fallback
  | _, _ => c.fallback

end Call

end NativeFlow
