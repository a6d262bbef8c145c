import NativeFlow.Taint

namespace NativeFlow

/-!
# Taint taken apart

`Taint` has no values that make no sense: an untainted record has no origin and no categories, and a
tainted one has an origin. A record that is kept as a flag, an optional origin and a set of
categories can break this, and only on records that do not is its fieldwise join a join.

* `Taint.Record`, `Taint.Record.WellFormed`: the parts, and when they make sense together.
* `Taint.Record.absorb`: the join field by field. It passes over records without taint.
* `Taint.exists_record_iff`: the records that make sense are those of taint.
* `Taint.record_absorb`: on them the fieldwise join is `Taint.absorb`.
* `Taint.absorb_assoc`, `Taint.absorb_self`, `Taint.categories_absorb_comm`: the laws of a join, and
  with `Taint.Record` in front the same laws for records that make sense.
-/

namespace Taint

/-! ### Records -/

/-- Taint taken apart: whether there is any, where it comes from, and the categories of the data.
The default is a record without taint. -/
structure Record where
  isTainted : Bool := false
  origin? : Option Origin := none
  categories : SortedSet String := .empty

namespace Record

/-- A record makes sense: without taint there is no origin and no category, and with taint there is
an origin. -/
structure WellFormed (r : Record) : Prop where
  clean : r.isTainted = false → r.origin? = none ∧ r.categories = .empty
  tainted : r.isTainted = true → r.origin?.isSome = true

/-- The join, field by field: the flag is raised, the first origin stays, and the categories are put
together. -/
def absorb (r other : Record) : Record :=
  -- A record without taint is passed over, whatever else it holds.
  if other.isTainted then
    ⟨true, if r.origin?.isNone then other.origin? else r.origin?,
      r.categories.union other.categories⟩
  else r

end Record

/-- The record of some taint. -/
def record (t : Taint) : Record := ⟨t.isTainted, t.origin?, t.categories⟩

/-- The record of some taint makes sense. -/
theorem wellFormed_record (t : Taint) : t.record.WellFormed := by
  cases t with
  | clean => exact ⟨fun _ => ⟨rfl, rfl⟩, nofun⟩
  | tainted origin categories => exact ⟨nofun, fun _ => rfl⟩

/-- Nothing is lost: taint is determined by its record. -/
theorem eq_of_record_eq {t u : Taint} (h : t.record = u.record) : t = u := by
  obtain ⟨hflag, horigin, hcategories⟩ := Record.mk.inj h
  cases t with
  | clean =>
    cases u with
    | clean => rfl
    | tainted => cases hflag
  | tainted origin categories =>
    cases u with
    | clean => cases hflag
    | tainted origin' categories' =>
      cases horigin
      cases hcategories
      rfl

/-- The records that make sense are those of taint. -/
theorem exists_record_iff {r : Record} : r.WellFormed ↔ ∃ t : Taint, t.record = r := by
  constructor
  · intro h
    obtain ⟨flag, origin?, categories⟩ := r
    cases flag with
    | false =>
      obtain ⟨rfl, rfl⟩ := h.clean rfl
      exact ⟨.clean, rfl⟩
    | true =>
      obtain ⟨origin, rfl⟩ := Option.isSome_iff_exists.1 (h.tainted rfl)
      exact ⟨.tainted origin categories, rfl⟩
  · rintro ⟨t, rfl⟩
    exact wellFormed_record t

/-- **The join field by field.** `Taint.absorb` does to the parts of taint what
`Taint.Record.absorb` does. -/
theorem record_absorb (t u : Taint) : (t.absorb u).record = t.record.absorb u.record := by
  cases u with
  | clean =>
    rw [absorb_clean]
    rfl
  | tainted origin' categories' =>
    cases t with
    | clean =>
      -- The categories of the other are added to an empty set.
      have hunion : SortedSet.empty.union categories' = categories' :=
        SortedSet.ext fun _ => by simp
      simp [record, Record.absorb, isTainted, origin?, categories, hunion]
    | tainted origin categories => rfl

/-! ### Two records -/

/-- The first origin stays. -/
@[simp] theorem origin?_absorb (t u : Taint) : (t.absorb u).origin? = t.origin?.or u.origin? := by
  cases t <;> cases u <;> rfl

/-- The categories of both are put together. -/
theorem categories_absorb (t u : Taint) :
    (t.absorb u).categories = t.categories.union u.categories := by
  apply SortedSet.ext
  simp

/-- **The parts of a join.** The flags and the categories are taken together, and the first origin
stays. -/
theorem record_absorb_eq (t u : Taint) :
    (t.absorb u).record =
      ⟨t.isTainted || u.isTainted, t.origin?.or u.origin?, t.categories.union u.categories⟩ := by
  rw [record, isTainted_absorb, origin?_absorb, categories_absorb]

/-- Joins may be grouped in any way. -/
theorem absorb_assoc (t u w : Taint) : (t.absorb u).absorb w = t.absorb (u.absorb w) := by
  apply eq_of_record_eq
  have hcategories : ((t.absorb u).absorb w).categories = (t.absorb (u.absorb w)).categories := by
    apply SortedSet.ext
    simp [or_assoc]
  simp [record, hcategories, Bool.or_assoc, Option.or_assoc]

/-- Joining anything with itself changes nothing. -/
theorem absorb_self (t : Taint) : t.absorb t = t := by
  apply eq_of_record_eq
  have hcategories : (t.absorb t).categories = t.categories := by
    apply SortedSet.ext
    simp
  simp [record, hcategories]

/-- The order of the two makes no difference to the categories. -/
theorem categories_absorb_comm (t u : Taint) :
    (t.absorb u).categories = (u.absorb t).categories := by
  apply SortedSet.ext
  simp [or_comm]

/-- A record without taint has no categories. -/
theorem isTainted_of_mem {t : Taint} {category : String} (h : category ∈ t.categories) :
    t.isTainted = true := by
  cases t with
  | clean => exact absurd h SortedSet.not_mem_empty
  | tainted => rfl

/-! ### Records that make sense

Each is the record of some taint, and what holds of the join of taint is carried over by
`Taint.record_absorb`. -/

namespace Record

variable {r s u : Record}

/-- The join of records that make sense makes sense. -/
theorem WellFormed.absorb (hr : r.WellFormed) (hs : s.WellFormed) : (r.absorb s).WellFormed := by
  obtain ⟨t, rfl⟩ := exists_record_iff.1 hr
  obtain ⟨t', rfl⟩ := exists_record_iff.1 hs
  rw [← record_absorb]
  exact wellFormed_record _

/-- Fieldwise joins may be grouped in any way. -/
theorem absorb_assoc (hr : r.WellFormed) (hs : s.WellFormed) (hu : u.WellFormed) :
    (r.absorb s).absorb u = r.absorb (s.absorb u) := by
  obtain ⟨t, rfl⟩ := exists_record_iff.1 hr
  obtain ⟨t', rfl⟩ := exists_record_iff.1 hs
  obtain ⟨t'', rfl⟩ := exists_record_iff.1 hu
  simp only [← record_absorb, Taint.absorb_assoc]

/-- Joining a record with itself changes nothing. -/
theorem absorb_self (hr : r.WellFormed) : r.absorb r = r := by
  obtain ⟨t, rfl⟩ := exists_record_iff.1 hr
  rw [← record_absorb, Taint.absorb_self]

/-- The default record can stand before every other. -/
theorem default_absorb (hr : r.WellFormed) : Record.absorb {} r = r := by
  obtain ⟨t, rfl⟩ := exists_record_iff.1 hr
  have hclean : ({} : Record) = clean.record := rfl
  rw [hclean, ← record_absorb, clean_absorb]

/-- The join clears no flag, and the order makes no difference to it. -/
theorem isTainted_absorb (r s : Record) :
    (r.absorb s).isTainted = (r.isTainted || s.isTainted) := by
  rw [absorb]
  cases s.isTainted <;> simp

/-- The join drops no category, and the order makes no difference to them. -/
theorem categories_absorb (hr : r.WellFormed) (hs : s.WellFormed) :
    (r.absorb s).categories = r.categories.union s.categories := by
  obtain ⟨t, rfl⟩ := exists_record_iff.1 hr
  obtain ⟨t', rfl⟩ := exists_record_iff.1 hs
  rw [← record_absorb]
  exact Taint.categories_absorb t t'

end Record

end Taint

end NativeFlow
