import NativeFlow.Kind
import NativeFlow.Taint

namespace NativeFlow

/-!
# Notes

What is known about a native value on the Java side. Notes are the annotations of a value: a report
lists them under `annotations`.

* `Note`: the six kinds of annotations, from the identity of a class to that of a primitive.
* `FieldTable`: the field values of an object or a class, in the order in which their keys were
  first used.
* `IccState`: what an Intent has been told about the component it is meant for.
* `JavaType.note?`: what is known of a value of which only the type is known.
-/

/-- The class whose objects carry inter-component state. -/
def intentClass : String := "android/content/Intent"

/-- The class of strings. -/
def stringClass : String := "java/lang/String"

/-- The class name of a member that was looked up in an unknown class. -/
def unknownClass : String := "<unknown>"

/-- Where a value was first seen. -/
inductive Provenance where
  | native
  | argument
  | reflectionCall
  | objectField
  | classField
  | classStatic
  deriving DecidableEq, Repr

/-- The name of a provenance. -/
def Provenance.name : Provenance → String
  | .native => "from_native"
  | .argument => "from_argument"
  | .reflectionCall => "from_reflection_call"
  | .objectField => "from_object_field"
  | .classField => "from_class_field"
  | .classStatic => "from_class_static"

/-- The type of a value as Java names it: a kind together with the keyword of a primitive type, the
internal name of a class, or the descriptor of an array. -/
structure JavaType where
  kind : Kind
  name : String
  deriving DecidableEq, Repr

/-- A field as the tables know it: its name and the Java name of its type. -/
structure FieldKey where
  name : String
  declaredType : String
  deriving DecidableEq, Repr

/-! ### Field tables -/

/-- Field values, one row for a key, in the order in which the keys were first used. -/
structure FieldTable (α : Type) where
  rows : List (FieldKey × α) := []

namespace FieldTable

variable {α : Type}

/-- The value in the first row of a key. -/
def lookup (key : FieldKey) : List (FieldKey × α) → Option α
  | [] => none
  | (k, value) :: rest => if k = key then some value else lookup key rest

/-- Puts a value into the row of a key, or into a new last row. -/
def store (key : FieldKey) (value : α) : List (FieldKey × α) → List (FieldKey × α)
  | [] => [(key, value)]
  | (k, old) :: rest => if k = key then (k, value) :: rest else (k, old) :: store key value rest

/-- The value of a field. -/
def get? (table : FieldTable α) (key : FieldKey) : Option α := lookup key table.rows

/-- Gives a field a value. A row that exists keeps its place, a new one goes to the end. -/
def set (table : FieldTable α) (key : FieldKey) (value : α) : FieldTable α :=
  ⟨store key value table.rows⟩

@[simp] theorem get?_set (table : FieldTable α) (key key' : FieldKey) (value : α) :
    (table.set key value).get? key' = if key = key' then some value else table.get? key' := by
  obtain ⟨rows⟩ := table
  simp only [set, get?]
  induction rows with
  | nil => simp [store, lookup]
  | cons row rest ih =>
    obtain ⟨k, old⟩ := row
    by_cases hk : k = key
    · subst hk
      by_cases hkey : k = key' <;> simp [store, lookup, hkey]
    · by_cases hkey : k = key'
      · subst hkey
        simp [store, lookup, hk, Ne.symm hk]
      · simp [store, lookup, hk, hkey, ih]

end FieldTable

/-! ### Identities -/

/-- What an Intent has been told: whether it is meant for a component, for which one, and the values
that go with it in the order of their keys. -/
structure IccState (α : Type) where
  isIcc : Bool := false
  activityName : Option String := none
  extras : List (String × Option α) := []

/-- A class and its static fields. -/
structure ClassIdentity (α : Type) where
  className : String
  fields : FieldTable α := {}

/-- An object: where it comes from, its type, its fields, its taint and its inter-component
state. -/
structure ObjectIdentity (α : Type) where
  source : Provenance
  javaType : String
  fields : FieldTable α := {}
  taint : Taint := .clean
  icc : Option (IccState α) := none

/-- An object of which nothing but its source and type is known. An Intent starts with empty
inter-component state. -/
def ObjectIdentity.ofType {α : Type} (source : Provenance) (javaType : String) :
    ObjectIdentity α where
  source := source
  javaType := javaType
  icc := if javaType = intentClass then some {} else none

/-- The text of a string. -/
structure StringLiteral where
  source : Provenance
  value : String
  deriving DecidableEq

/-- A method, by class, name and descriptor. -/
structure MethodIdentity where
  className : String
  methodName : String
  signature : String
  deriving DecidableEq

/-- The signature of a member together with its class and name. -/
def fullSignature (className memberName signature : String) : String :=
  "L" ++ className ++ ";." ++ memberName ++ ":" ++ signature

/-- The name under which catalogs list a method. -/
def MethodIdentity.fullSignature (m : MethodIdentity) : String :=
  NativeFlow.fullSignature m.className m.methodName m.signature

/-- `MethodIdentity.fullSignature` spelled out, such as `Ljava/lang/String;.length:()I`. -/
theorem MethodIdentity.fullSignature_eq (m : MethodIdentity) :
    m.fullSignature = "L" ++ m.className ++ ";." ++ m.methodName ++ ":" ++ m.signature := rfl

/-- A field, by class, name and descriptor. -/
structure FieldIdentity where
  className : String
  fieldName : String
  signature : String
  deriving DecidableEq

/-- A value of a primitive type. -/
structure PrimitiveValue where
  source : Provenance
  javaType : String
  taint : Taint := .clean

/-- What is known about a native value on the Java side. -/
inductive Note where
  | classIdentity (identity : ClassIdentity Note)
  | object (identity : ObjectIdentity Note)
  | string (literal : StringLiteral)
  | method (identity : MethodIdentity)
  | field (identity : FieldIdentity)
  | primitive (value : PrimitiveValue)

namespace Note

/-- The constructor of a note. -/
inductive Tag where
  | classIdentity
  | object
  | string
  | method
  | field
  | primitive
  deriving DecidableEq, Repr

/-- Which kind of knowledge a note is. -/
def tag : Note → Tag
  | .classIdentity _ => .classIdentity
  | .object _ => .object
  | .string _ => .string
  | .method _ => .method
  | .field _ => .field
  | .primitive _ => .primitive

/-- The taint that a note records; only objects and primitive values have any. -/
def taint? : Note → Option Taint
  | .object identity => some identity.taint
  | .primitive value => some value.taint
  | _ => none

/-- Joins taint into a note that records any. -/
def absorb (taint : Taint) : Note → Note
  | .object identity => .object { identity with taint := identity.taint.absorb taint }
  | .primitive value => .primitive { value with taint := value.taint.absorb taint }
  | other => other

end Note

/-- The taint of the first row that is tainted. -/
def FieldTable.firstTainted? (table : FieldTable Note) : Option Taint :=
  (table.rows.filterMap fun row => row.2.taint?).find? Taint.isTainted

/-- What is known of a value of which only the type and the source are known. -/
def JavaType.note? (type : JavaType) (source : Provenance) : Option Note :=
  match type.kind with
  | .void => none
  | .primitive _ => some (.primitive { source, javaType := type.name })
  | .object | .array => some (.object (.ofType source type.name))
  -- A string whose text is not known is an object like any other.
  | .string => some (.object (.ofType source stringClass))

end NativeFlow
