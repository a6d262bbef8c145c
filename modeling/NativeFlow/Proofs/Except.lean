import Mathlib.Data.List.Forall2

namespace NativeFlow

/-!
# Computations that may fail

* `bind_eq_ok_iff`, `map_eq_ok_iff`, `mapM_eq_ok_iff`, `toOption_eq_some_iff`: when a computation
  that is put together from others succeeds, and with what.
* `Agree`: two computations fail with the same error, or both succeed with related results.
  `Agree.bind` and `mapM_agree` follow them step by step.
-/

/-! ### Success -/

/-- One computation after another succeeds if both do. -/
theorem bind_eq_ok_iff {ε α β : Type} {x : Except ε α} {f : α → Except ε β} {b : β} :
    x.bind f = .ok b ↔ ∃ a, x = .ok a ∧ f a = .ok b := by
  cases x with
  | error e => simp [Except.bind]
  | ok a => simp [Except.bind]

/-- A mapped computation succeeds if the computation does. -/
theorem map_eq_ok_iff {ε α β : Type} {x : Except ε α} {f : α → β} {b : β} :
    x.map f = .ok b ↔ ∃ a, x = .ok a ∧ f a = b := by
  cases x with
  | error e => simp [Except.map]
  | ok a => simp [Except.map]

/-- `Except.toOption` keeps the result and forgets the error. -/
theorem toOption_eq_some_iff {ε α : Type} {x : Except ε α} {a : α} :
    x.toOption = some a ↔ x = .ok a := by
  cases x <;> simp [Except.toOption]

/-- Many computations succeed if each of them does. -/
theorem mapM_eq_ok_iff {ε α β : Type} {f : α → Except ε β} {as : List α} {bs : List β} :
    as.mapM f = .ok bs ↔ List.Forall₂ (fun a b => f a = .ok b) as bs := by
  induction as generalizing bs with
  | nil => simp [pure, Except.pure, eq_comm]
  | cons a as ih =>
    -- The head fails, or the tail fails, or both results are put together.
    rw [List.mapM_cons, List.forall₂_cons_left_iff]
    change Except.bind _ _ = _ ↔ _
    rw [bind_eq_ok_iff]
    refine exists_congr fun b => ?_
    change _ ∧ Except.bind _ _ = _ ↔ _
    rw [bind_eq_ok_iff]
    simp only [pure, Except.pure, Except.ok.injEq, ih]
    grind

/-! ### Two computations -/

/-- Two computations fail with the same error, or both succeed with related results. -/
inductive Agree {ε α β : Type} (P : α → β → Prop) : Except ε α → Except ε β → Prop
  | error (e : ε) : Agree P (.error e) (.error e)
  | ok {a : α} {b : β} (h : P a b) : Agree P (.ok a) (.ok b)

/-- `Agree` goes on step by step: related results lead to steps that agree. -/
theorem Agree.bind {ε α α' β β' : Type} {P : α → α' → Prop} {Q : β → β' → Prop}
    {x : Except ε α} {x' : Except ε α'} {f : α → Except ε β} {f' : α' → Except ε β'}
    (hx : Agree P x x') (hf : ∀ a a', P a a' → Agree Q (f a) (f' a')) :
    Agree Q (x.bind f) (x'.bind f') := by
  cases hx with
  | error e => exact .error e
  | ok h => exact hf _ _ h

theorem Agree.imp {ε α β : Type} {P Q : α → β → Prop} {x : Except ε α} {y : Except ε β}
    (h : Agree P x y) (hPQ : ∀ a b, P a b → Q a b) : Agree Q x y := by
  cases h with
  | error e => exact .error e
  | ok h => exact .ok (hPQ _ _ h)

/-- Two traversals of the same list stop at the same element, with the same error, or give related
lists. -/
theorem mapM_agree {ε α β γ : Type} {P : β → γ → Prop} {f : α → Except ε β} {g : α → Except ε γ}
    (h : ∀ a, Agree P (f a) (g a)) (as : List α) :
    Agree (List.Forall₂ P) (as.mapM f) (as.mapM g) := by
  induction as with
  | nil => exact .ok .nil
  | cons a as ih =>
    rw [List.mapM_cons, List.mapM_cons]
    refine (h a).bind fun b c hbc => ih.bind fun bs cs hbcs => ?_
    exact .ok (.cons hbc hbcs)

end NativeFlow
