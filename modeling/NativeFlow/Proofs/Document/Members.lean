import Mathlib.Data.List.Nodup
import NativeFlow.Proofs.Document.Basic
import NativeFlow.Proofs.Json.Reading
import NativeFlow.Trace.Reader

namespace NativeFlow

open Json (Kept)

/-!
# Members in any order

An object is read member by member. Some of its members have a slot and are looked at at once, all
others are gathered and looked at in the end. What has been read after some members is a function of
these members (`Trace.slot`, `Trace.gathered`), and in the end it does not depend on their order.

* `Trace.single_slot`, `Trace.gather_gathered`: one member more.
* `Trace.slot_of_required`, `Trace.getD_slot`: what the slots hold in the end.
* `Trace.gathered_eq_singleton`, `Trace.required?_gathered`, `Trace.withDefault?_gathered`: what is
  found in the end among the members that have been gathered.
* `Trace.firstForm?_singleton`: a member that may come under several names.
-/

namespace Shows

variable {fields : List Field} {members done left : List (String × Json)} {m : String × Json}

/-- A member that comes next has not come before. -/
theorem fresh (h : Shows fields members) (hsplit : members = done ++ m :: left) :
    m.1 ∉ done.map Prod.fst := by
  intro hmem
  have hdistinct := h.distinct
  rw [hsplit, List.map_append, List.map_cons, List.nodup_append] at hdistinct
  exact hdistinct.2.2 m.1 hmem m.1 List.mem_cons_self rfl

/-- A field that has no default to stand for it is among the members. -/
theorem mem_of_required {field : Field} (h : Shows fields members) (hfield : field ∈ fields)
    (hrequired : field.isDefault = false) : field.member ∈ members := by
  rcases h.complete field hfield with hmem | ⟨hdefault, _⟩
  · exact hmem
  · rw [hrequired] at hdefault
    cases hdefault

end Shows

namespace Trace

open Reader

variable {α : Type} {fields : List Field} {members done : List (String × Json)}
  {m : String × Json}

/-- What has been read for a member that is looked at on its own, once some members have been
read. -/
def slot (name : String) (a : α) (done : List (String × Json)) : Option α :=
  if name ∈ done.map Prod.fst then some a else none

/-- What has been gathered once some members have been read: those that have no slot. -/
def gathered (slots : List String) (done : List (String × Json)) : Gathered :=
  (done.filter fun m => m.1 ∉ slots).reverse

theorem slot_of_not_mem {name : String} (a : α) (h : name ∉ done.map Prod.fst) :
    slot name a done = none :=
  if_neg h

/-- Once its member has been read, a slot is filled. -/
theorem slot_append_self (a : α) : slot m.1 a (done ++ [m]) = some a :=
  if_pos (by simp)

/-- A member of another name leaves a slot as it is. -/
theorem slot_append_of_ne {name : String} (a : α) (h : name ≠ m.1) :
    slot name a (done ++ [m]) = slot name a done := by
  have hmem : name ∈ (done ++ [m]).map Prod.fst ↔ name ∈ done.map Prod.fst := by simp [h]
  simp only [slot, hmem]

/-- A member that has a slot is not gathered. -/
theorem gathered_append_of_mem {slots : List String} (h : m.1 ∈ slots) :
    gathered slots (done ++ [m]) = gathered slots done := by
  simp [gathered, List.filter_append, h]

/-- A member without a slot is gathered, in front of those that came before it. -/
theorem gathered_append_of_not_mem {slots : List String} (h : m.1 ∉ slots) :
    gathered slots (done ++ [m]) = m :: gathered slots done := by
  simp [gathered, List.filter_append, h]

/-- In the end the slot of a member that must be there holds its value. -/
theorem slot_of_required {field : Field} (a : α) (h : Shows fields members)
    (hfield : field ∈ fields) (hrequired : field.isDefault = false) :
    slot field.name a members = some a := by
  have hmem := h.mem_of_required hfield hrequired
  exact if_pos (List.mem_map_of_mem (f := Prod.fst) hmem)

/-- In the end a slot holds its value, if its default stands for it when it is empty. -/
theorem getD_slot {field : Field} {a default : α} (h : Shows fields members)
    (hfield : field ∈ fields) (hdefault : field.isDefault = true → a = default) :
    (slot field.name a members).getD default = a := by
  rcases h.complete field hfield with hmem | ⟨hleft, hmem⟩
  · have hname : field.name ∈ members.map Prod.fst := List.mem_map_of_mem (f := Prod.fst) hmem
    rw [slot, if_pos hname]
    rfl
  · rw [slot_of_not_mem a hmem, hdefault hleft]
    rfl

/-- What is gathered are the members that have no slot. -/
theorem mem_gathered {slots : List String} :
    m ∈ gathered slots members ↔ m ∈ members ∧ m.1 ∉ slots := by
  simp [gathered]

/-- Members that are gathered have different names if all members have. -/
theorem distinct_gathered (slots : List String) (h : (members.map Prod.fst).Nodup) :
    ((gathered slots members).map Prod.fst).Nodup := by
  rw [gathered, List.map_reverse, List.nodup_reverse]
  exact h.sublist (List.filter_sublist.map Prod.fst)

theorem valuesOf_cons (first : String × Json) (members : Gathered) (name : String) :
    Gathered.valuesOf (first :: members) name =
      if first.1 = name then first.2 :: members.valuesOf name else members.valuesOf name := by
  by_cases h : first.1 = name
  · simp [Gathered.valuesOf, h]
  · simp [Gathered.valuesOf, h]

/-- `Gathered.valuesOf` finds nothing under a name that has not come. -/
theorem valuesOf_eq_nil {name : String} {members : Gathered} (h : name ∉ members.map Prod.fst) :
    members.valuesOf name = [] := by
  induction members with
  | nil => rfl
  | cons first members ih =>
    rw [List.map_cons, List.mem_cons, not_or] at h
    rw [valuesOf_cons, if_neg (Ne.symm h.1), ih h.2]

/-- Where no name comes twice, `Gathered.valuesOf` finds the one value under the name of a member.
-/
theorem valuesOf_of_mem {members : Gathered} (hdistinct : (members.map Prod.fst).Nodup)
    (hmem : m ∈ members) : members.valuesOf m.1 = [m.2] := by
  induction members with
  | nil => cases hmem
  | cons first members ih =>
    rw [List.map_cons, List.nodup_cons] at hdistinct
    rcases List.mem_cons.1 hmem with rfl | hmem
    · rw [valuesOf_cons, if_pos rfl, valuesOf_eq_nil hdistinct.1]
    · have hne : first.1 ≠ m.1 := fun heq => hdistinct.1 (heq ▸ List.mem_map_of_mem hmem)
      rw [valuesOf_cons, if_neg hne, ih hdistinct.2 hmem]

/-- If all fields but one have slots, that one is all that is gathered in the end. -/
theorem gathered_eq_singleton {slots : List String} {field : Field} (h : Shows fields members)
    (hfield : field ∈ fields) (hrequired : field.isDefault = false) (hslots : field.name ∉ slots)
    (hother : ∀ other ∈ fields, other.name ∉ slots → other = field) :
    gathered slots members = [field.member] := by
  have hdistinct := distinct_gathered slots h.distinct
  have hmem : field.member ∈ gathered slots members :=
    mem_gathered.2 ⟨h.mem_of_required hfield hrequired, hslots⟩
  -- All that is gathered is this field, by `hother`.
  have hall : ∀ m ∈ gathered slots members, m = field.member := by
    intro m hm
    obtain ⟨hm, hname⟩ := mem_gathered.1 hm
    obtain ⟨other, hfields, rfl⟩ := h.sound m hm
    rw [hother other hfields hname]
  -- Two members would have the same name, and that of the field.
  cases hlist : gathered slots members with
  | nil =>
    rw [hlist] at hmem
    cases hmem
  | cons first others =>
    rw [hlist] at hdistinct hall
    have hfirst := hall first List.mem_cons_self
    cases others with
    | nil => rw [hfirst]
    | cons second others =>
      have hsecond := hall second (List.mem_cons_of_mem _ List.mem_cons_self)
      rw [hfirst, hsecond] at hdistinct
      simp at hdistinct

/-- `Gathered.required?` reads the value of a field that must be there. -/
theorem required?_gathered {slots : List String} {field : Field} {read : Json → Option α}
    (h : Shows fields members) (hfield : field ∈ fields) (hrequired : field.isDefault = false)
    (hslots : field.name ∉ slots) :
    (gathered slots members).required? field.name read = read field.value := by
  have hmem := mem_gathered.2 ⟨h.mem_of_required hfield hrequired, hslots⟩
  have hvalues := valuesOf_of_mem (distinct_gathered slots h.distinct) hmem
  simp only [Gathered.required?, show field.name = field.member.1 from rfl, hvalues]
  rfl

/-- `Gathered.withDefault?` gives the value of a field, whether it is there or has been left out. -/
theorem withDefault?_gathered {slots : List String} {field : Field} {a default : α}
    {read : Json → Option α} (h : Shows fields members) (hfield : field ∈ fields)
    (hslots : field.name ∉ slots) (hread : read field.value = some a)
    (hdefault : field.isDefault = true → a = default) :
    (gathered slots members).withDefault? field.name default read = some a := by
  rcases h.complete field hfield with hmem | ⟨hleft, hmem⟩
  · have hmem := mem_gathered.2 ⟨hmem, hslots⟩
    have hvalues := valuesOf_of_mem (distinct_gathered slots h.distinct) hmem
    simp only [Gathered.withDefault?, show field.name = field.member.1 from rfl, hvalues]
    exact hread
  · have hnone : field.name ∉ (gathered slots members).map Prod.fst := fun hname => by
      obtain ⟨m, hm, heq⟩ := List.mem_map.1 hname
      exact hmem (heq ▸ List.mem_map_of_mem (mem_gathered.1 hm).1)
    simp only [Gathered.withDefault?, valuesOf_eq_nil hnone, hdefault hleft]

/-! ### One member more -/

/-- A member that has a slot fills it. -/
theorem single_slot {reader : Reader α} {a : α} (h : Reads reader m.2 a)
    (hfresh : m.1 ∉ done.map Prod.fst) :
    ReadsMember (single (slot m.1 a done) m.1 reader) m.2 (slot m.1 a (done ++ [m])) := by
  -- The path of an error does not matter here: the member is read without one.
  have hwithin : Reads (within (.key m.1) reader) m.2 a :=
    fun blanks text rest hblanks hspelled hrest =>
      within_of_ok (h blanks text rest hblanks hspelled hrest)
  rw [slot_of_not_mem a hfresh, slot_append_self]
  exact readsMember_colon (hwithin.bind fun _ => rfl)

/-- A member that has no slot joins the others. -/
theorem gather_gathered {slots : List String} (h : Kept 2 m.2) (hslots : m.1 ∉ slots) :
    ReadsMember (gather (gathered slots done) m.1) m.2 (gathered slots (done ++ [m])) := by
  rw [gathered_append_of_not_mem hslots]
  exact readsMember_value (reads_value (h.mono (show 2 ≤ memberDepth by decide))) m.1 _

/-! ### Forms -/

/-- One member that has been gathered is read in the form that goes with its name. -/
theorem firstForm?_singleton {field : Field} {form : String → Option (Json → Option α)}
    {read : Json → Option α} (h : form field.name = some read) :
    Gathered.firstForm? [field.member] form = read field.value := by
  simp only [Gathered.firstForm?, Field.member, List.reverse_singleton, List.findSome?_singleton, h,
    Option.map_some]

end Trace

end NativeFlow
