import Mathlib.Data.List.Forall2
import Mathlib.Data.List.Induction
import Mathlib.Data.List.Nodup
import Mathlib.Data.List.Sort

namespace NativeFlow

/-!
# Lists

* `find?_eq_some_of_unique`: an element that is the only one of its kind is found.
* `exists_forall₂_iff`: related lists, element by element.
* `eraseDups_concat`, `nodup_eraseDups`: lists without repetitions that grow at their end.
* `pairwise_zipIdx`, `filterMap_zipIdx_congr`: lists with numbers.
* `filter_mergeSort`: a stable sort leaves elements that count as equal in their order.
-/

variable {α β : Type}

/-! ### Elements -/

/-- An element is found that is the only one to have a property. -/
theorem find?_eq_some_of_unique {p : α → Bool} {l : List α} {a : α} (hmem : a ∈ l)
    (ha : p a = true) (hunique : ∀ b ∈ l, p b = true → b = a) : l.find? p = some a := by
  cases hfind : l.find? p with
  | none => exact absurd ha (List.find?_eq_none.1 hfind a hmem)
  | some b => rw [hunique b (List.mem_of_find?_eq_some hfind) (List.find?_some hfind)]

/-- A list is related to some list if each of its elements is related to something. -/
theorem exists_forall₂_iff {r : α → β → Prop} {as : List α} :
    (∃ bs, List.Forall₂ r as bs) ↔ ∀ a ∈ as, ∃ b, r a b := by
  induction as with
  | nil => simp
  | cons a as ih =>
    rw [List.forall_mem_cons, ← ih]
    simp only [List.forall₂_cons_left_iff]
    constructor
    · rintro ⟨-, b, bs, hb, hbs, -⟩
      exact ⟨⟨b, hb⟩, bs, hbs⟩
    · rintro ⟨⟨b, hb⟩, bs, hbs⟩
      exact ⟨b :: bs, b, bs, hb, hbs, rfl⟩

/-! ### Lists that grow at their end -/

theorem filterMap_singleton (f : α → Option β) (a : α) :
    [a].filterMap f = (f a).toList := by
  cases h : f a <;> simp [h]

section

variable [DecidableEq α]

/-- One more element counts only if it is new. -/
theorem eraseDups_concat (l : List α) (a : α) :
    (l ++ [a]).eraseDups = if a ∈ l.eraseDups then l.eraseDups else l.eraseDups ++ [a] := by
  rw [List.eraseDups_append]
  by_cases h : a ∈ l
  · simp [List.removeAll, h]
  · simp [List.removeAll, h, List.eraseDups_cons]

/-- `List.eraseDups` leaves no repetitions. -/
theorem nodup_eraseDups (l : List α) : l.eraseDups.Nodup := by
  -- Induction from the end, where `eraseDups_concat` says what one more element does.
  induction l using List.reverseRecOn with
  | nil => exact List.nodup_nil
  | append_singleton l a ih =>
    rw [eraseDups_concat]
    split
    case isTrue => exact ih
    case isFalse hnew =>
      refine List.nodup_append.2 ⟨ih, List.nodup_singleton a, ?_⟩
      rintro b hb c hc rfl
      exact hnew (List.mem_singleton.1 hc ▸ hb)

end

/-! ### Lists with numbers -/

/-- Numbers increase along a list. -/
theorem pairwise_zipIdx (l : List α) (start : Nat) :
    (l.zipIdx start).Pairwise fun a b => a.2 < b.2 := by
  rw [← List.pairwise_map (R := (· < ·)), List.zipIdx_map_snd]
  exact List.pairwise_lt_range'

/-- What is picked from a list by number is the same for elements that do not differ in it. -/
theorem filterMap_zipIdx_congr {R : α → α → Prop} {pick : α × Nat → Option β}
    (hpick : ∀ a b position, R a b → pick (b, position) = pick (a, position)) {l l' : List α}
    (h : List.Forall₂ R l l') (start : Nat) :
    (l'.zipIdx start).filterMap pick = (l.zipIdx start).filterMap pick := by
  induction h generalizing start with
  | nil => rfl
  | cons hab _ ih =>
    rw [List.zipIdx_cons, List.zipIdx_cons, List.filterMap_cons, List.filterMap_cons,
      hpick _ _ start hab, ih]

/-! ### Sorted lists -/

/-- A stable sort leaves elements in their order that may stand in any order. -/
theorem filter_mergeSort {le : α → α → Bool}
    (htrans : ∀ a b c, le a b = true → le b c = true → le a c = true)
    (htotal : ∀ a b, (le a b || le b a) = true) {p : α → Bool}
    (hequal : ∀ a b, p a = true → p b = true → le a b = true) (l : List α) :
    (l.mergeSort le).filter p = l.filter p := by
  have hsorted : (l.filter p).Pairwise fun a b => le a b = true := by
    refine List.pairwise_of_forall_mem_list fun a ha b hb => ?_
    exact hequal a b (List.mem_filter.1 ha).2 (List.mem_filter.1 hb).2
  -- A sorted sublist of a list is a sublist of the sorted list.
  have hsublist : (l.filter p).Sublist (l.mergeSort le) :=
    List.sublist_mergeSort htrans htotal hsorted List.filter_sublist
  have hfilter : (l.filter p).Sublist ((l.mergeSort le).filter p) := by
    simpa using hsublist.filter p
  exact (hfilter.eq_of_length ((List.mergeSort_perm l le).filter p).length_eq.symm).symm

end NativeFlow
