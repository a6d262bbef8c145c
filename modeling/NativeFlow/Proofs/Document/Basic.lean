import NativeFlow.Proofs.Json.Spelling
import NativeFlow.Proofs.Related
import NativeFlow.Trace.Basic

namespace NativeFlow

open Json (Kept)

/-!
# Trace documents

A trace is described by a JSON value. The parts of a trace are objects: their members come in any
order, and a member whose value is the default may be left out. The document itself is such an
object too, or an array of its four parts. All this is said of traces and values alone.

* `Shows`, `Describes`: the objects that describe some fields.
* `Region.fields`, `Input.fields`, `RecordedCall.fields`: the members of the parts of a trace.
* `Trace.Document`: the documents of a trace.
* `Trace.Document.kept`: how deep a document is nested.
* `Trace.document_toJson`: every trace has a document.
-/

/-! ### Objects -/

/-- A member of the object that describes a part of a trace. -/
structure Field where
  name : String
  value : Json
  /-- Whether the value is the one that is assumed where the member is left out. -/
  isDefault : Bool := false

/-- The field as a member of an object. -/
def Field.member (field : Field) : String × Json := (field.name, field.value)

@[simp] theorem Field.member_fst (field : Field) : field.member.1 = field.name := rfl

/-- The members of an object that describes some fields: they come in any order and each at most
once, and only what has its default is left out. -/
structure Shows (fields : List Field) (members : List (String × Json)) : Prop where
  distinct : (members.map Prod.fst).Nodup
  sound : ∀ m ∈ members, ∃ field ∈ fields, field.member = m
  complete : ∀ field ∈ fields, field.member ∈ members ∨
    field.isDefault = true ∧ field.name ∉ members.map Prod.fst

/-- The objects that describe some fields. -/
inductive Describes (fields : List Field) : Json → Prop
  | object {members : List (String × Json)} (h : Shows fields members) :
    Describes fields (.object members)

/-! ### Parts of a trace -/

/-- The member of a region that gives its contents. -/
def RegionContents.field : RegionContents → Field
  | .text value => ⟨"utf8", .string value, false⟩
  | .bytes values => ⟨"bytes", .array (values.map fun value => .natural value.toNat), false⟩
  | .words values => ⟨"words", .array (values.map fun value => .natural value.toNat), false⟩

/-- The members of a region. -/
def Region.fields (region : Region) : List Field :=
  [⟨"address", .natural region.address.toNat, false⟩, region.contents.field]

/-- The members that a value of a type has in common with others of its kind. -/
def InputValue.typeFields (javaType : String) (tainted : Bool) (categories : List String) :
    List Field :=
  [⟨"java_type", .string javaType, false⟩, ⟨"tainted", .bool tainted, !tainted⟩,
    ⟨"categories", Json.strings categories, categories.isEmpty⟩]

/-- The members of an input apart from its name. -/
def InputValue.fields : InputValue → List Field
  | .object javaType tainted categories =>
    ⟨"kind", .string "object", false⟩ :: typeFields javaType tainted categories
  | .classObject className =>
    [⟨"kind", .string "class", false⟩, ⟨"class_name", .string className, false⟩]
  | .string value => [⟨"kind", .string "string", false⟩, ⟨"value", .string value, false⟩]
  | .primitive javaType tainted categories =>
    ⟨"kind", .string "primitive", false⟩ :: typeFields javaType tainted categories

/-- The members of an input. -/
def Input.fields (input : Input) : List Field :=
  ⟨"name", .string input.name, false⟩ :: input.value.fields

/-- An argument: a number, or an object with one member. -/
def Argument.toJson : Argument → Json
  | .literal value => .natural value.toNat
  | .reference name => .object [("ref", .string name)]
  | .address value => .object [("address", .natural value.toNat)]

/-- The member of a call that gives its target. -/
def Target.field : Target → Field
  | .function name => ⟨"function", .string name, false⟩
  | .symbol name => ⟨"symbol", .string name, false⟩
  | .slot index => ⟨"slot", .natural index.toNat, false⟩

/-- The members of a call. -/
def RecordedCall.fields (call : RecordedCall) : List Field :=
  [call.target.field, ⟨"args", .array (call.args.map Argument.toJson), call.args.isEmpty⟩,
    ⟨"bind", Json.ofOption .string call.bind, call.bind.isNone⟩]

namespace Trace

/-- Values that describe the regions, the inputs and the calls of a trace. -/
structure Parts (trace : Trace) (memory inputs calls : List Json) : Prop where
  memory : List.Forall₂ (fun region => Describes region.fields) trace.memory memory
  inputs : List.Forall₂ (fun input => Describes input.fields) trace.inputs inputs
  calls : List.Forall₂ (fun call => Describes call.fields) trace.calls calls

/-- The members of a document. -/
def fields (trace : Trace) (memory inputs calls : List Json) : List Field :=
  [⟨"pointer_bits", .natural trace.pointerBits.toNat, trace.pointerBits == 64⟩,
    ⟨"memory", .array memory, trace.memory.isEmpty⟩,
    ⟨"inputs", .array inputs, trace.inputs.isEmpty⟩,
    ⟨"calls", .array calls, trace.calls.isEmpty⟩]

/-- The documents of a trace: an object, or an array of the four parts. -/
inductive Document (trace : Trace) : Json → Prop
  | object {memory inputs calls : List Json} {members : List (String × Json)}
      (hparts : trace.Parts memory inputs calls)
      (hmembers : Shows (trace.fields memory inputs calls) members) :
    Document trace (.object members)
  | array {memory inputs calls : List Json} (hparts : trace.Parts memory inputs calls) :
    Document trace
      (.array [.natural trace.pointerBits.toNat, .array memory, .array inputs, .array calls])

end Trace

/-! ### Depth -/

/-- An object is one level deeper than the fields that it describes. -/
theorem Describes.kept {fields : List Field} {json : Json} {depth : Nat}
    (h : Describes fields json) (hfields : ∀ field ∈ fields, Kept depth field.value) :
    Kept (depth + 1) json := by
  cases h with
  | object h =>
    intro m hm
    obtain ⟨field, hfield, rfl⟩ := h.sound m hm
    exact hfields field hfield

namespace Trace

/-- The contents of a region are a text or a list of numbers, each below its bound: `Kept 2` allows
one level of nesting and one to spare. -/
theorem kept_field_of_contents (contents : RegionContents) : Kept 2 contents.field.value := by
  cases contents with
  | text value => exact trivial
  | bytes values =>
    intro item hitem
    obtain ⟨value, _, rfl⟩ := List.mem_map.1 hitem
    exact Nat.lt_trans value.toNat_lt (by decide)
  | words values =>
    intro item hitem
    obtain ⟨value, _, rfl⟩ := List.mem_map.1 hitem
    exact value.toNat_lt

/-- Neither member of a region is nested deeper than a list of numbers. -/
theorem kept_region (region : Region) : ∀ field ∈ region.fields, Kept 2 field.value := by
  intro field hfield
  simp only [Region.fields, List.mem_cons, List.not_mem_nil, or_false] at hfield
  rcases hfield with rfl | rfl
  · exact region.address.toNat_lt
  · exact kept_field_of_contents region.contents

/-- The type of an input, its mark and its categories: the deepest is a list of texts. -/
theorem kept_typeFields (javaType : String) (tainted : Bool) (categories : List String) :
    ∀ field ∈ InputValue.typeFields javaType tainted categories, Kept 2 field.value := by
  intro field hfield
  simp only [InputValue.typeFields, List.mem_cons, List.not_mem_nil, or_false] at hfield
  rcases hfield with rfl | rfl | rfl
  · trivial
  · trivial
  · intro item hitem
    obtain ⟨category, _, rfl⟩ := List.mem_map.1 hitem
    trivial

/-- Whatever kind of value an input is, none of its members is deeper than a list. -/
theorem kept_inputValue (value : InputValue) : ∀ field ∈ value.fields, Kept 2 field.value := by
  intro field hfield
  cases value with
  | object javaType tainted categories =>
    rcases List.mem_cons.1 hfield with rfl | hfield
    · trivial
    · exact kept_typeFields _ _ _ field hfield
  | primitive javaType tainted categories =>
    rcases List.mem_cons.1 hfield with rfl | hfield
    · trivial
    · exact kept_typeFields _ _ _ field hfield
  | classObject className =>
    simp only [InputValue.fields, List.mem_cons, List.not_mem_nil, or_false] at hfield
    rcases hfield with rfl | rfl
    · trivial
    · trivial
  | string value =>
    simp only [InputValue.fields, List.mem_cons, List.not_mem_nil, or_false] at hfield
    rcases hfield with rfl | rfl
    · trivial
    · trivial

theorem kept_input (input : Input) : ∀ field ∈ input.fields, Kept 2 field.value := by
  intro field hfield
  rcases List.mem_cons.1 hfield with rfl | hfield
  · trivial
  · exact kept_inputValue input.value field hfield

/-- An argument is a number or an object with one plain member. -/
theorem kept_argument (argument : Argument) : Kept 1 argument.toJson := by
  cases argument with
  | literal value => exact value.toNat_lt
  | reference name =>
    intro member hmember
    rw [List.mem_singleton.1 hmember]
    trivial
  | address value =>
    intro member hmember
    rw [List.mem_singleton.1 hmember]
    exact value.toNat_lt

theorem kept_target (target : Target) : Kept 2 target.field.value := by
  cases target with
  | function name => trivial
  | symbol name => trivial
  | slot index => exact index.toNat_lt

/-- The deepest member of a call is its list of arguments, some of which are objects. -/
theorem kept_call (call : RecordedCall) : ∀ field ∈ call.fields, Kept 2 field.value := by
  intro field hfield
  simp only [RecordedCall.fields, List.mem_cons, List.not_mem_nil, or_false] at hfield
  rcases hfield with rfl | rfl | rfl
  · exact kept_target call.target
  · intro item hitem
    obtain ⟨argument, _, rfl⟩ := List.mem_map.1 hitem
    exact kept_argument argument
  · cases call.bind <;> trivial

variable {α : Type} {trace : Trace} {memory inputs calls : List Json}

/-- A list of parts is two levels deeper than their fields. -/
theorem kept_array {fieldsOf : α → List Field} {as : List α} {jsons : List Json}
    (h : List.Forall₂ (fun a => Describes (fieldsOf a)) as jsons)
    (hkept : ∀ a, ∀ field ∈ fieldsOf a, Kept 2 field.value) : Kept 4 (.array jsons) :=
  forall_of_forall₂ (fun a _ hjson => hjson.kept (hkept a)) h

/-- The members of a document, four levels deep at most: a list of parts, the part itself, a list in
it and an argument. -/
theorem Parts.kept (h : trace.Parts memory inputs calls) :
    ∀ field ∈ trace.fields memory inputs calls, Kept 4 field.value := by
  intro field hfield
  simp only [fields, List.mem_cons, List.not_mem_nil, or_false] at hfield
  rcases hfield with rfl | rfl | rfl | rfl
  · exact Nat.lt_trans trace.pointerBits.toNat_lt (by decide)
  · exact kept_array h.memory kept_region
  · exact kept_array h.inputs kept_input
  · exact kept_array h.calls kept_call

/-- A document is nested five levels deep at most. -/
theorem Document.kept {json : Json} (h : trace.Document json) : Kept 5 json := by
  cases h with
  | object hparts hmembers => exact (Describes.object hmembers).kept hparts.kept
  | array hparts =>
    -- The items of the array are the values of the four members.
    have hfields := hparts.kept
    simp only [fields, List.forall_mem_cons] at hfields
    intro item hitem
    simp only [List.mem_cons, List.not_mem_nil, or_false] at hitem
    rcases hitem with rfl | rfl | rfl | rfl
    · exact hfields.1
    · exact hfields.2.1
    · exact hfields.2.2.1
    · exact hfields.2.2.2.1

end Trace

/-! ### A document for every trace -/

/-- The object in which no field is left out. -/
def objectOf (fields : List Field) : Json := .object (fields.map Field.member)

/-- An object in which no field is left out describes its fields, if they have different names. -/
theorem shows_all {fields : List Field} (h : (fields.map Field.name).Nodup) :
    Shows fields (fields.map Field.member) where
  distinct := by
    rw [List.map_map]
    exact h
  sound := fun m hm => List.mem_map.1 hm
  complete := fun field hfield => .inl (List.mem_map_of_mem hfield)

theorem describes_objectOf {fields : List Field} (h : (fields.map Field.name).Nodup) :
    Describes fields (objectOf fields) :=
  .object (shows_all h)

namespace Trace

/-- Every region has an object that describes it: `objectOf` of its fields. -/
theorem describes_region (region : Region) : Describes region.fields (objectOf region.fields) := by
  refine describes_objectOf ?_
  rw [Region.fields]
  cases region.contents <;> simp [RegionContents.field]

/-- Every input has one too. -/
theorem describes_input (input : Input) : Describes input.fields (objectOf input.fields) := by
  refine describes_objectOf ?_
  rw [Input.fields]
  cases input.value <;> simp [InputValue.fields, InputValue.typeFields]

theorem describes_call (call : RecordedCall) : Describes call.fields (objectOf call.fields) := by
  refine describes_objectOf ?_
  rw [RecordedCall.fields]
  cases call.target <;> simp [Target.field]

/-- The document of a trace in which nothing is left out. -/
def toJson (trace : Trace) : Json :=
  objectOf (trace.fields (trace.memory.map fun region => objectOf region.fields)
    (trace.inputs.map fun input => objectOf input.fields)
    (trace.calls.map fun call => objectOf call.fields))

/-- **Every trace has a document:** `Trace.toJson` leaves nothing out. -/
theorem document_toJson (trace : Trace) : trace.Document trace.toJson := by
  refine .object ⟨?_, ?_, ?_⟩ (shows_all (by simp [fields]))
  · exact List.forall₂_map_right_iff.2 (List.forall₂_same.2 fun region _ => describes_region region)
  · exact List.forall₂_map_right_iff.2 (List.forall₂_same.2 fun input _ => describes_input input)
  · exact List.forall₂_map_right_iff.2 (List.forall₂_same.2 fun call _ => describes_call call)

end Trace

end NativeFlow
