import NativeFlow.Proofs.Effect
import NativeFlow.Proofs.Run

namespace NativeFlow

/-!
# Write-back

After a call, the names among its arguments are bound to the values that the arguments have then,
from left to right. A name that stands at two positions is bound to the value at the last one.

* `Replay.find?_writeBack`: what a name is bound to after write-back.
* `Replay.find?_bindings_settle`: what a name is bound to after a call.
* `RecordedCall.Binds`: a call gives its result a name. `Replay.Makes.bound_head`,
  `Replay.Makes.bound_other` and `Replay.Makes.bound_kept` say what becomes of any other name.
* `Replay.update_kept_iff`: what a call does to an argument is kept exactly if no later argument
  has the same name.
-/

namespace Replay

/-! ### Bindings after a call -/

/-- A name that has the same value wherever it stands is bound to that value; one that stands
nowhere keeps the value it has. -/
theorem find?_writeBack {name : String} {value : Value} {args : List Argument}
    {values : List Value}
    (h : List.Forall₂ (fun arg v => arg = .reference name → v = value) args values)
    (bindings : SortedMap String Value) :
    (writeBack bindings args values).find? name =
      if .reference name ∈ args then some value else bindings.find? name := by
  induction h generalizing bindings with
  | nil => simp [writeBack]
  | @cons arg v args values hv _ ih =>
    -- The first argument is written back first, and the others may write over it.
    have hcons : writeBack bindings (arg :: args) (v :: values) =
        writeBack (writeBack bindings [arg] [v]) args values := rfl
    rw [hcons, ih]
    by_cases hmem : .reference name ∈ args
    · rw [if_pos hmem, if_pos (List.mem_cons_of_mem arg hmem)]
    · rw [if_neg hmem]
      -- Now only the first argument can name it.
      by_cases harg : arg = .reference name
      · subst harg
        rw [if_pos List.mem_cons_self, hv rfl]
        simp [writeBack]
      · have hnot : .reference name ∉ arg :: args := by
          simp [hmem, Ne.symm harg]
        rw [if_neg hnot]
        cases arg with
        | reference other =>
          have hother : name ≠ other := fun e => harg (by rw [e])
          simp [writeBack, hother]
        | literal handle => rfl
        | address handle => rfl

/-- What holds of the value of a name before and wherever it stands among the arguments holds of it
afterwards. -/
theorem exists_find?_writeBack {P : Value → Prop} {name : String} {args : List Argument}
    {values : List Value}
    (h : List.Forall₂ (fun arg v => arg = .reference name → P v) args values)
    {bindings : SortedMap String Value} (hbound : ∃ v, bindings.find? name = some v ∧ P v) :
    ∃ v, (writeBack bindings args values).find? name = some v ∧ P v := by
  induction h generalizing bindings with
  | nil => exact hbound
  | @cons arg v args values hv _ ih =>
    have hcons : writeBack bindings (arg :: args) (v :: values) =
        writeBack (writeBack bindings [arg] [v]) args values := rfl
    rw [hcons]
    refine ih ?_
    cases arg with
    | literal handle | address handle => exact hbound
    | reference other =>
      have hinsert : writeBack bindings [.reference other] [v] = bindings.insert other v := rfl
      rw [hinsert, SortedMap.find?_insert]
      by_cases hname : name = other
      · subst hname
        exact ⟨v, if_pos rfl, hv rfl⟩
      · rw [if_neg hname]
        exact hbound

/-- Only the name of the result is bound anew, and only if there is a result. -/
theorem find?_bindResult {name : String} {name? : Option String} {value? : Option Value}
    (h : name? = some name → value? = none) (bindings : SortedMap String Value) :
    (bindResult bindings name? value?).find? name = bindings.find? name := by
  unfold bindResult
  split
  case h_1 other value =>
    have hother : name ≠ other := by
      rintro rfl
      exact absurd (h rfl) (by simp)
    simp [hother]
  case h_2 => rfl

variable {catalog : Catalog} {r : Replay} {call : RecordedCall} {function : Function}
  {args : List Value} {name : String}

/-- What a name is bound to that the call does not bind: what it stands for after the call, where it
stands at all. -/
theorem find?_bindings_settle {reply : Reply} {value : Value}
    (hbind : call.bind = some name → reply.value? = none)
    (h : List.Forall₂ (fun arg v => arg = .reference name → v = value) call.args
      reply.effect.args) :
    (r.settle call function reply).bindings.find? name =
      if .reference name ∈ call.args then some value else r.bindings.find? name := by
  change (bindResult _ _ _).find? name = _
  rw [find?_bindResult hbind, find?_writeBack h]

/-- The name that a call gives its result is bound to the result. -/
theorem find?_bindings_settle_result {reply : Reply} {value : Value} (hbind : call.bind = some name)
    (hvalue : reply.value? = some value) :
    (r.settle call function reply).bindings.find? name = some value := by
  change (bindResult _ call.bind reply.value?).find? name = _
  rw [hbind, hvalue]
  simp [bindResult]

/-- Where a name stands among the arguments of a call, the argument is what the name is bound to. -/
theorem Makes.reference (h : r.Makes call function args) {value : Value}
    (hvalue : r.bindings.find? name = some value) :
    List.Forall₂ (fun arg v => arg = .reference name → v = value) call.args args := by
  refine h.argument.imp fun arg v harg => ?_
  rintro rfl
  rw [argument_reference, hvalue] at harg
  exact (Option.some.inj harg).symm

/-- A call changes its first argument only, and tells it what `update?` says. -/
theorem reply_touches (catalog : Catalog) (r : Replay) (function : Function) (args : List Value) :
    Value.HeadTouched (function.behaviour.update? (r.view catalog args)) args
      (r.reply catalog function args).effect.args := by
  rw [reply, Behaviour.reply_effect]
  exact function.behaviour.effect_touches (r.view catalog args)

end Replay

/-! ### Names that a call does not bind -/

/-- A call gives its result a name. A function that returns nothing has no result to name. -/
def RecordedCall.Binds (call : RecordedCall) (name : String) : Prop :=
  call.bind = some name ∧
    ∃ function, call.target.resolve? = some function ∧ function.behaviour.returns ≠ .void

namespace Replay.Makes

variable {catalog : Catalog} {r : Replay} {call : RecordedCall} {function : Function}
  {args : List Value} {name : String} {v : Value}

/-- A call that does not bind the name it is given has no result. -/
theorem value?_of_not_binds (h : r.Makes call function args) (hbinds : ¬ call.Binds name)
    (hbind : call.bind = some name) : (r.reply catalog function args).value? = none := by
  refine Behaviour.reply_void ?_ _
  by_contra hreturns
  exact hbinds ⟨hbind, function, h.target, hreturns⟩

/-- A name that stands first and nowhere else is bound to what has become of the first argument. -/
theorem bound_head (h : r.Makes call function args) (catalog : Catalog)
    (hbinds : ¬ call.Binds name) (hv : r.bindings.find? name = some v)
    (hhead : call.args.head? = some (.reference name))
    (honce : call.args.count (.reference name) ≤ 1) :
    ∃ v' rest, args = v :: rest ∧ (r.reply catalog function args).effect.args = v' :: rest ∧
      (r.settle call function (r.reply catalog function args)).bindings.find? name = some v' := by
  obtain ⟨callArgs, hcall⟩ := List.head?_eq_some_iff.1 hhead
  have hreference := h.reference hv
  have htouched := reply_touches catalog r function args
  obtain ⟨v', rest, hargs, hargs', hafter⟩ : ∃ v' rest, args = v :: rest ∧
      (r.reply catalog function args).effect.args = v' :: rest ∧
      List.Forall₂ (fun arg x => arg = .reference name → x = v') call.args
        (r.reply catalog function args).effect.args := by
    generalize (r.reply catalog function args).effect.args = args' at htouched ⊢
    rw [hcall] at hreference honce ⊢
    cases htouched with
    | nil => cases hreference
    | @cons x v' rest =>
      obtain ⟨hx, hrest⟩ := List.forall₂_cons.1 hreference
      obtain rfl : x = v := hx rfl
      -- Behind the first position the name does not stand any more.
      have hnot : .reference name ∉ callArgs := by
        rw [List.count_cons_self] at honce
        exact List.count_eq_zero.1 (by omega)
      have hother := (List.forall₂_and_left _ _).2 ⟨fun arg (harg : arg ∈ callArgs) => harg, hrest⟩
      refine ⟨v', rest, rfl, rfl, .cons (fun _ => rfl) (hother.imp fun arg y hy heq => ?_)⟩
      exact absurd (heq ▸ hy.1) hnot
  refine ⟨v', rest, hargs, hargs', ?_⟩
  rw [find?_bindings_settle (h.value?_of_not_binds hbinds) hafter,
    if_pos (List.mem_of_mem_head? hhead)]

/-- A name that does not stand first is bound to what it was bound to. -/
theorem bound_other (h : r.Makes call function args) (catalog : Catalog)
    (hbinds : ¬ call.Binds name) (hv : r.bindings.find? name = some v)
    (hhead : call.args.head? ≠ some (.reference name)) :
    (r.settle call function (r.reply catalog function args)).bindings.find? name = some v := by
  have hreference := h.reference hv
  have htouched := reply_touches catalog r function args
  have hafter : List.Forall₂ (fun arg x => arg = .reference name → x = v) call.args
      (r.reply catalog function args).effect.args := by
    generalize (r.reply catalog function args).effect.args = args' at htouched ⊢
    cases htouched with
    | nil => exact hreference
    | cons =>
      generalize call.args = callArgs at hreference hhead ⊢
      cases hreference with
      | cons _ hrest => exact .cons (fun heq => absurd (by rw [heq]; rfl) hhead) hrest
  rw [find?_bindings_settle (h.value?_of_not_binds hbinds) hafter, hv, ite_self]

/-- **Names are kept.** A name that the call does not bind has a value afterwards. What holds of its
value, and of whatever becomes of it as the first argument, holds of the value then. -/
theorem bound_kept (h : r.Makes call function args) (hbinds : ¬ call.Binds name)
    (hv : r.bindings.find? name = some v) {P : Value → Prop} (hsame : P v)
    (hchanged : ∀ v' rest, args = v :: rest →
      (r.reply catalog function args).effect.args = v' :: rest → P v') :
    ∃ v', (r.settle call function (r.reply catalog function args)).bindings.find? name = some v' ∧
      P v' := by
  have hreference := h.reference hv
  have htouched := reply_touches catalog r function args
  have hafter : List.Forall₂ (fun arg x => arg = .reference name → P x) call.args
      (r.reply catalog function args).effect.args := by
    generalize (r.reply catalog function args).effect.args = args' at htouched hchanged ⊢
    -- The first argument may have changed; the name may stand there, behind it, or both.
    cases htouched with
    | nil => exact hreference.imp fun arg x hx heq => hx heq ▸ hsame
    | @cons x x' rest =>
      generalize call.args = callArgs at hreference ⊢
      cases hreference with
      | cons hx hrest =>
        refine .cons (fun heq => ?_) (hrest.imp fun arg y hy heq => hy heq ▸ hsame)
        obtain rfl := hx heq
        exact hchanged x' rest rfl rfl
  obtain ⟨v', hv', hP⟩ := exists_find?_writeBack hafter ⟨v, hv, hsame⟩
  refine ⟨v', ?_, hP⟩
  change (bindResult _ _ _).find? name = _
  rw [find?_bindResult (h.value?_of_not_binds hbinds), hv']

end Replay.Makes

/-! ### Changed arguments -/

/-- A value that is changed is the first one, and all others are what they were. -/
theorem Value.HeadTouched.of_changed {update? : Option IntentUpdate} {args args' : List Value}
    (h : HeadTouched update? args args') {i : Nat} {before after : Value}
    (hbefore : args[i]? = some before) (hafter : args'[i]? = some after)
    (hchanged : after ≠ before) :
    i = 0 ∧ ∃ rest, args = before :: rest ∧ args' = after :: rest := by
  cases h with
  | nil => simp at hbefore
  | cons rest _ =>
    -- At any later position both lists have the same value.
    cases i with
    | zero =>
      simp only [List.getElem?_cons_zero, Option.some.injEq] at hbefore hafter
      exact ⟨rfl, rest, by rw [hbefore], by rw [hafter]⟩
    | succ i =>
      rw [List.getElem?_cons_succ] at hbefore hafter
      exact absurd (Option.some.inj (hafter.symm.trans hbefore)) hchanged

namespace Replay

variable {catalog : Catalog} {r : Replay} {call : RecordedCall} {function : Function}
  {args : List Value} {name : String}

/-- **What a call does to an argument is kept exactly if no later argument has the same name.**
Otherwise the later argument, which the call has not changed, is written back over it, and the name
is bound to the value it had before. A name that the call gives its result to is left out. -/
theorem update_kept_iff (hmade : r.Makes call function args) {i : Nat} {before after : Value}
    (hname : call.args[i]? = some (.reference name)) (hbefore : args[i]? = some before)
    (hafter : (r.reply catalog function args).effect.args[i]? = some after)
    (hchanged : after ≠ before)
    (hbind : call.bind = some name → (r.reply catalog function args).value? = none) :
    ∃ r', r.step catalog call = .ok r' ∧
      (r'.bindings.find? name = some after ↔
        ∀ j, i < j → call.args[j]? ≠ some (.reference name)) ∧
      ((∃ j, i < j ∧ call.args[j]? = some (.reference name)) →
        r'.bindings.find? name = some before) := by
  obtain ⟨rfl, rest, rfl, hargs⟩ :=
    (reply_touches catalog r function args).of_changed hbefore hafter hchanged
  obtain ⟨callArgs, hcall⟩ : ∃ callArgs, call.args = .reference name :: callArgs := by
    rw [← List.head?_eq_getElem?] at hname
    exact List.head?_eq_some_iff.1 hname
  have hargument := hmade.argument
  rw [hcall] at hargument
  have hfound := argument_reference.1 (List.forall₂_cons.1 hargument).1
  -- The first argument is written back first, and then the others over it.
  have hbindings :
      (r.settle call function (r.reply catalog function (before :: rest))).bindings.find? name =
        if .reference name ∈ callArgs then some before else some after := by
    have hrest := hmade.reference hfound
    rw [hcall] at hrest
    change (bindResult (writeBack _ _ _) _ _).find? name = _
    rw [find?_bindResult hbind, hcall, hargs]
    have hcons : writeBack r.bindings (.reference name :: callArgs) (after :: rest) =
        writeBack (r.bindings.insert name after) callArgs rest := rfl
    rw [hcons, find?_writeBack (List.forall₂_cons.1 hrest).2, SortedMap.find?_insert, if_pos rfl]
  -- Later arguments are those behind the first one.
  have hlater : (∃ j, 0 < j ∧ call.args[j]? = some (.reference name)) ↔
      .reference name ∈ callArgs := by
    rw [hcall, List.mem_iff_getElem?]
    constructor
    · rintro ⟨j, hj, hget⟩
      cases j with
      | zero => exact absurd hj (by omega)
      | succ j => exact ⟨j, by simpa using hget⟩
    · rintro ⟨j, hget⟩
      exact ⟨j + 1, by omega, by simpa using hget⟩
  refine ⟨_, hmade.step_eq catalog, ?_, fun h => ?_⟩
  · rw [hbindings]
    by_cases hmem : .reference name ∈ callArgs
    · rw [if_pos hmem]
      obtain ⟨j, hj, hget⟩ := hlater.2 hmem
      exact ⟨fun h => absurd (Option.some.inj h).symm hchanged, fun h => absurd hget (h j hj)⟩
    · rw [if_neg hmem]
      exact ⟨fun _ j hj hget => hmem (hlater.1 ⟨j, hj, hget⟩), fun _ => rfl⟩
  · rw [hbindings, if_pos (hlater.1 h)]

/-! ### A field that refers to its owner -/

/-- A run that knows an object and one of its fields. -/
def holderTrace : Trace where
  memory := [⟨4096, .text "self"⟩, ⟨4160, .text "LHolder;"⟩]
  inputs := [⟨"class", .classObject "Holder"⟩, ⟨"holder", .object "Holder" false []⟩]
  calls := [
    ⟨.function "GetFieldID", [.reference "class", .address 4096, .address 4160], some "field"⟩]

/-- The call that gives the field a value. -/
def assignField (value : Argument) : RecordedCall where
  target := .function "SetObjectField"
  args := [.reference "holder", .reference "field", value]

/-- The number of field values of the object that a value refers to. -/
def rowCount (v : Value) : Option Nat := v.object?.map fun o => o.fields.rows.length

set_option maxRecDepth 20000 in
/-- An assignment of something else is kept. -/
theorem update_kept_of_literal :
    ∃ r function args before after r', holderTrace.replay {} = .ok r ∧
      r.Makes (assignField (.literal 5)) function args ∧ args[0]? = some before ∧
      (r.reply {} function args).effect.args[0]? = some after ∧ after ≠ before ∧
      r.step {} (assignField (.literal 5)) = .ok r' ∧
      r'.bindings.find? "holder" = some after := by
  obtain ⟨r, function, args, before, after, hr, hmade, hbefore, hafter, hchanged⟩ :
      ∃ r function args before after, holderTrace.replay {} = .ok r ∧
        r.Makes (assignField (.literal 5)) function args ∧ args[0]? = some before ∧
        (r.reply {} function args).effect.args[0]? = some after ∧ after ≠ before :=
    ⟨_, _, _, _, _, rfl, ⟨rfl, rfl, by decide, rfl⟩, rfl, rfl,
      fun h => absurd (congrArg rowCount h) (by decide)⟩
  have hname : (assignField (.literal 5)).args[0]? = some (.reference "holder") := rfl
  obtain ⟨r', hstep, hkept, -⟩ :=
    update_kept_iff hmade hname hbefore hafter hchanged (by simp [assignField])
  refine ⟨r, function, args, before, after, r', hr, hmade, hbefore, hafter, hchanged, hstep, ?_⟩
  rw [hkept]
  intro j hj
  match j with
  | 1 => decide
  | 2 => decide
  | j + 3 => simp [assignField]

set_option maxRecDepth 20000 in
/-- An assignment of the object to a field of its own is lost. -/
theorem update_lost_of_self :
    ∃ r function args before after r', holderTrace.replay {} = .ok r ∧
      r.Makes (assignField (.reference "holder")) function args ∧ args[0]? = some before ∧
      (r.reply {} function args).effect.args[0]? = some after ∧ after ≠ before ∧
      r.step {} (assignField (.reference "holder")) = .ok r' ∧
      r'.bindings.find? "holder" = some before := by
  refine ⟨_, _, _, _, _, _, rfl, ⟨rfl, rfl, by decide, rfl⟩, rfl, rfl, ?_, rfl, rfl⟩
  intro h
  exact absurd (congrArg rowCount h) (by decide)

end Replay

end NativeFlow
