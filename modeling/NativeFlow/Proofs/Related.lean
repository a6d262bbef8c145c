import Mathlib.Data.List.Forall2

namespace NativeFlow

/-!
# Related options and lists

Two computations on related data are compared step by step. `Option.Rel` and `List.Forall₂` lift a
relation to optional values and to lists; the lemmas here say that the usual operations keep it.

* `rel_map`, `rel_bind`, `rel_or`, `rel_toList`: operations on optional values.
* `rel_findSome?`, `rel_getElem?`, `rel_head?`: look-ups in lists.
* `some_of_rel`, `eq_of_rel`, `map_eq_of_forall₂`: what a related pair says about its two sides.
-/

variable {α α' β β' γ : Type} {P : α → β → Prop} {Q : α' → β' → Prop}

/-- A weaker relation holds wherever a stronger one does: `Option.Rel` is monotone. -/
theorem rel_imp {P' : α → β → Prop} (himp : ∀ a b, P a b → P' a b) {x : Option α} {y : Option β}
    (h : Option.Rel P x y) : Option.Rel P' x y := by
  cases h with
  | some h => exact .some (himp _ _ h)
  | none => exact .none

/-- `Option.map` with functions that take `P` to `Q` takes `Option.Rel P` to `Option.Rel Q`. -/
theorem rel_map {f : α → α'} {g : β → β'} (hfg : ∀ a b, P a b → Q (f a) (g b)) {x : Option α}
    {y : Option β} (h : Option.Rel P x y) : Option.Rel Q (x.map f) (y.map g) := by
  cases h with
  | some h => exact .some (hfg _ _ h)
  | none => exact .none

/-- `Option.bind` with steps that take `P` to `Option.Rel Q`: both computations stop at the same
place, or both go on with related values. -/
theorem rel_bind {f : α → Option α'} {g : β → Option β'}
    (hfg : ∀ a b, P a b → Option.Rel Q (f a) (g b)) {x : Option α} {y : Option β}
    (h : Option.Rel P x y) : Option.Rel Q (x.bind f) (y.bind g) := by
  cases h with
  | some h => exact hfg _ _ h
  | none => exact .none

/-- `Option.or` of related options: the alternative is taken on both sides or on neither. -/
theorem rel_or {x x' : Option α} {y y' : Option β} (h : Option.Rel P x y)
    (h' : Option.Rel P x' y') : Option.Rel P (x.or x') (y.or y') := by
  cases h with
  | some h => exact .some h
  | none => exact h'

/-- Related options are related as lists of at most one element. -/
theorem rel_toList {x : Option α} {y : Option β} (h : Option.Rel P x y) :
    List.Forall₂ P x.toList y.toList := by
  cases h with
  | some h => exact .cons h .nil
  | none => exact .nil

/-- Where the left side is there, so is the right one, and the two are related. -/
theorem some_of_rel {x : Option α} {y : Option β} (h : Option.Rel P x y) {a : α} (ha : x = some a) :
    ∃ b, y = some b ∧ P a b := by
  subst ha
  cases h with
  | some h => exact ⟨_, rfl, h⟩

/-- Options related by equality are equal. Look-ups that do not see the difference between their
arguments are compared by it. -/
theorem eq_of_rel {x y : Option γ} (h : Option.Rel Eq x y) : x = y := by
  cases h with
  | some h => rw [h]
  | none => rfl

theorem rel_self {R : γ → γ → Prop} (hR : ∀ a, R a a) (x : Option γ) : Option.Rel R x x := by
  cases x with
  | some a => exact .some (hR a)
  | none => exact .none

/-- **Look-ups.** `List.findSome?` in related lists stops at the same place and finds related
things. -/
theorem rel_findSome? {f : α → Option α'} {g : β → Option β'}
    (hfg : ∀ a b, P a b → Option.Rel Q (f a) (g b)) {l : List α} {l' : List β}
    (h : List.Forall₂ P l l') : Option.Rel Q (l.findSome? f) (l'.findSome? g) := by
  induction h with
  | nil => exact .none
  | cons hab _ ih =>
    rw [List.findSome?_cons, List.findSome?_cons]
    -- Both heads give a result or neither does, so the two searches stop or go on together.
    have hfound := hfg _ _ hab
    split <;> split <;> simp_all

/-- Related lists have related elements at each index, and the same indices. -/
theorem rel_getElem? {l : List α} {l' : List β} (h : List.Forall₂ P l l') (index : Nat) :
    Option.Rel P l[index]? l'[index]? := by
  induction h generalizing index with
  | nil => exact .none
  | cons hab _ ih =>
    cases index with
    | zero => exact .some hab
    | succ index => simpa using ih index

/-- A property that `P` gives its right side holds of every element on the right. -/
theorem forall_of_forall₂ {S : β → Prop} (himp : ∀ a b, P a b → S b) {l : List α} {l' : List β}
    (h : List.Forall₂ P l l') : ∀ b ∈ l', S b := by
  induction h with
  | nil => exact fun b hb => absurd hb List.not_mem_nil
  | cons hab _ ih =>
    intro b hb
    rcases List.mem_cons.1 hb with rfl | hb
    · exact himp _ _ hab
    · exact ih b hb

/-- `List.Forall₂ R` is transitive where `R` is. -/
theorem forall₂_trans {R : γ → γ → Prop} (hR : ∀ a b c, R a b → R b c → R a c) {l l' l'' : List γ}
    (h : List.Forall₂ R l l') (h' : List.Forall₂ R l' l'') : List.Forall₂ R l l'' := by
  induction h generalizing l'' with
  | nil => exact h'
  | cons hab _ ih =>
    -- The middle list has the shape of the first, so the second proof is of the same length.
    cases h' with
    | cons hbc hrest => exact .cons (hR _ _ _ hab hbc) (ih hrest)

/-- Lists of related elements have the same image under functions that related elements agree on. -/
theorem map_eq_of_forall₂ {f : α → γ} {g : β → γ} {l : List α} {l' : List β}
    (h : List.Forall₂ P l l') (hfg : ∀ a ∈ l, ∀ b, P a b → f a = g b) : l.map f = l'.map g := by
  induction h with
  | nil => rfl
  | cons hab _ ih =>
    have hhead := hfg _ List.mem_cons_self _ hab
    have htail := ih fun a ha => hfg a (List.mem_cons_of_mem _ ha)
    rw [List.map_cons, List.map_cons, hhead, htail]

theorem rel_head? {l : List α} {l' : List β} (h : List.Forall₂ P l l') :
    Option.Rel P l.head? l'.head? := by
  cases h with
  | nil => exact .none
  | cons hab _ => exact .some hab

end NativeFlow
