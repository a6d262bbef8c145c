import Mathlib.Data.List.Induction
import NativeFlow.Proofs.Addressing
import NativeFlow.Proofs.WriteBack

namespace NativeFlow

/-!
# Replays compose, up to the first fault

A trace may be replayed in two parts. An error in the first part is the error of the whole, and a
reserved slot that is called in the first part ends the whole there, whatever comes after it. What
the first part has reported, counted and bound stays.

* `Replay.isBound_settle`, `Replay.isBound_of_run`: which names are bound after a call or a run,
  without looking at any value.
* `RecordedCall.Resolves`, `RecordedCall.CallsReserved`: what decides how a call goes
  (`Replay.step_running_iff`, `Replay.step_aborted_iff`).
* `Replay.running_iff`, `Replay.aborted_iff`: which runs get through, and which end where.
* `Trace.replay_append`: the two parts of a replay.
-/

/-! ### Counters -/

/-- Adding to a counter changes that counter and no other; a counter that is not there is zero. -/
theorem SortedMap.count_addCount (counts : SortedMap String Nat) (key key' : String)
    (amount : Nat) :
    ((counts.addCount key amount).find? key').getD 0 =
      (counts.find? key').getD 0 + if key' = key then amount else 0 := by
  rw [addCount, find?_insert]
  split
  case isTrue hkey => rw [hkey, Option.getD_some]
  case isFalse => rfl

/-- No counter of a function is larger than in the other coverage. -/
structure Coverage.Within (coverage coverage' : Coverage) : Prop where
  perFunction : ∀ function, (coverage.perFunction.find? function).getD 0 ≤
    (coverage'.perFunction.find? function).getD 0
  fallbackFunctions : ∀ function, (coverage.fallbackFunctions.find? function).getD 0 ≤
    (coverage'.fallbackFunctions.find? function).getD 0

namespace Coverage.Within

/-- Every coverage is within itself. -/
theorem refl (coverage : Coverage) : coverage.Within coverage :=
  ⟨fun _ => Nat.le_refl _, fun _ => Nat.le_refl _⟩

/-- Counters that do not get smaller twice do not get smaller. -/
theorem trans {a b c : Coverage} (h : a.Within b) (h' : b.Within c) : a.Within c :=
  ⟨fun f => Nat.le_trans (h.perFunction f) (h'.perFunction f),
    fun f => Nat.le_trans (h.fallbackFunctions f) (h'.fallbackFunctions f)⟩

/-- A call that is counted makes no counter smaller. -/
theorem record (coverage : Coverage) (function : String) (handling : Handling) :
    coverage.Within (coverage.record function handling) := by
  constructor
  · intro other
    rw [perFunction_record, SortedMap.count_addCount]
    exact Nat.le_add_right _ _
  · intro other
    cases handling with
    | modeled | fault => exact Nat.le_refl _
    | fallback =>
      change _ ≤ ((coverage.fallbackFunctions.addCount function 1).find? other).getD 0
      rw [SortedMap.count_addCount]
      exact Nat.le_add_right _ _

end Coverage.Within

/-! ### How a call goes -/

/-- A call goes to one of the four reserved slots. -/
def RecordedCall.CallsReserved (call : RecordedCall) : Prop :=
  ∃ function, call.target.resolve? = some function ∧ function.slot ≤ 3

/-- A call can be made where the given names are bound: its target is a function, and all names
among its arguments are bound. -/
structure RecordedCall.Resolves (call : RecordedCall) (bound : String → Prop) : Prop where
  target : ∃ function, call.target.resolve? = some function
  references : ∀ name, .reference name ∈ call.args → bound name

/-- The names that are bound before the call with the given index: those of the inputs, and those of
the results of earlier calls. -/
def Trace.BoundBefore (trace : Trace) (index : Nat) (name : String) : Prop :=
  (∃ input ∈ trace.inputs, input.name = name) ∨ ∃ call ∈ trace.calls.take index, call.Binds name

namespace Replay

variable {catalog : Catalog} {r r' : Replay} {call : RecordedCall} {name : String}

/-- A name has a value. -/
def IsBound (r : Replay) (name : String) : Prop := (r.bindings.find? name).isSome = true

/-- A number or an address always has a value, a name if it is bound. -/
theorem exists_argument_iff (r : Replay) (arg : Argument) :
    (∃ value, r.argument arg = .ok value) ↔
      ∀ name, .reference name = arg → r.IsBound name := by
  cases arg with
  | literal handle | address handle =>
    exact ⟨fun _ name heq => (by cases heq), fun _ => ⟨_, rfl⟩⟩
  | reference other =>
    simp only [argument_reference, Argument.reference.injEq, IsBound, Option.isSome_iff_exists]
    exact ⟨fun h name heq => heq ▸ h, fun h => h other rfl⟩

/-- The arguments of a call have values exactly if the names among them are bound. -/
theorem exists_args_iff (r : Replay) (args : List Argument) :
    (∃ values, args.mapM r.argument = .ok values) ↔
      ∀ name, .reference name ∈ args → r.IsBound name := by
  simp only [mapM_eq_ok_iff]
  -- Induction on the arguments, of which `List.mapM` takes one after the other.
  induction args with
  | nil =>
    constructor
    · exact fun _ name hmem => absurd hmem List.not_mem_nil
    · exact fun _ => ⟨[], .nil⟩
  | cons arg args ih =>
    constructor
    · rintro ⟨values, hvalues⟩ name hmem
      cases hvalues with
      | cons hvalue hrest =>
        rcases List.mem_cons.1 hmem with heq | hmem
        · exact (exists_argument_iff r arg).1 ⟨_, hvalue⟩ name heq
        · exact ih.1 ⟨_, hrest⟩ name hmem
    · intro h
      obtain ⟨value, hvalue⟩ := (exists_argument_iff r arg).2 fun name heq =>
        h name (heq ▸ List.mem_cons_self)
      obtain ⟨values, hvalues⟩ := ih.2 fun name hmem => h name (List.mem_cons_of_mem _ hmem)
      exact ⟨value :: values, .cons hvalue hvalues⟩

/-- A step that succeeds before the run has ended is a call that can be made. -/
theorem resolves_of_step (h : r.step catalog call = .ok r') (hrun : r.aborted = none) :
    call.Resolves r.IsBound := by
  cases htarget : call.target.resolve? with
  | none => simp [step, hrun, htarget] at h
  | some function =>
    cases hargs : call.args.mapM r.argument with
    | error name => simp [step, hrun, htarget, hargs] at h
    | ok args => exact ⟨⟨function, htarget⟩, (exists_args_iff r call.args).1 ⟨args, hargs⟩⟩

/-- **Getting through.** A step leaves the run going exactly if the call can be made and does not go
to a reserved slot. -/
theorem step_running_iff (hrun : r.aborted = none) (catalog : Catalog) :
    (∃ r', r.step catalog call = .ok r' ∧ r'.aborted = none) ↔
      call.Resolves r.IsBound ∧ ¬ call.CallsReserved := by
  constructor
  · rintro ⟨r', hstep, hrun'⟩
    obtain ⟨function, args, hmade, rfl⟩ := makes_of_step hstep hrun'
    refine ⟨resolves_of_step hstep hrun, ?_⟩
    rintro ⟨function', htarget, hslot⟩
    obtain rfl : function = function' := Option.some.inj (hmade.target.symm.trans htarget)
    exact hmade.replies ((Interface.reserved_iff (Target.mem_of_resolve? htarget)).2 hslot)
  · rintro ⟨⟨⟨function, htarget⟩, hreferences⟩, hfree⟩
    obtain ⟨args, hargs⟩ := (exists_args_iff r call.args).2 hreferences
    have hreplies : function.behaviour ≠ .reserved := by
      intro hreserved
      have hslot := (Interface.reserved_iff (Target.mem_of_resolve? htarget)).1 hreserved
      exact hfree ⟨function, htarget, hslot⟩
    exact ⟨_, (Makes.mk hrun htarget hreplies hargs).step_eq catalog, rfl⟩

/-- **The fault.** A step ends the run exactly if the call can be made and goes to a reserved slot,
and the run ends with that call. -/
theorem step_aborted_iff (hrun : r.aborted = none) (catalog : Catalog) {index : Nat} :
    (∃ r' fault, r.step catalog call = .ok r' ∧ r'.aborted = some ⟨index, fault⟩) ↔
      index = r.traceIndex ∧ call.Resolves r.IsBound ∧ call.CallsReserved := by
  constructor
  · rintro ⟨r', fault, hstep, hend⟩
    have hresolves := resolves_of_step hstep hrun
    rcases step_cases hstep with
      ⟨hbefore, rfl⟩ | ⟨function, _, htarget, hreserved, rfl⟩ | ⟨function, args, _, rfl⟩
    · rw [hrun] at hbefore
      exact absurd hbefore (by simp)
    · obtain rfl : r.traceIndex = index := congrArg Abort.callIndex (Option.some.inj hend)
      have hslot := (Interface.reserved_iff (Target.mem_of_resolve? htarget)).1 hreserved
      exact ⟨rfl, hresolves, function, htarget, hslot⟩
    · exact absurd hend (by simp [settle])
  · rintro ⟨rfl, hresolves, function, htarget, hslot⟩
    obtain ⟨args, hargs⟩ := (exists_args_iff r call.args).2 hresolves.references
    have hreserved := (Interface.reserved_iff (Target.mem_of_resolve? htarget)).2 hslot
    refine ⟨r.abort function (.reservedSlot function.slot), .reservedSlot function.slot, ?_, rfl⟩
    simp [step, hrun, htarget, hargs, Function.call, hreserved]

/-! ### Names -/

/-- Nothing is written back to a name that is no argument. -/
theorem find?_writeBack_of_not_mem {args : List Argument} (h : .reference name ∉ args)
    (bindings : SortedMap String Value) (values : List Value) :
    (writeBack bindings args values).find? name = bindings.find? name := by
  induction args generalizing bindings values with
  | nil => rfl
  | cons arg args ih =>
    rw [List.mem_cons, not_or] at h
    cases values with
    | nil => rfl
    | cons value values =>
      -- The arguments are written back one by one, each over what the earlier ones have left.
      have hcons : writeBack bindings (arg :: args) (value :: values) =
          writeBack (writeBack bindings [arg] [value]) args values := rfl
      rw [hcons, ih h.2]
      cases arg with
      | literal handle | address handle => rfl
      | reference other =>
        have hother : name ≠ other := fun heq => h.1 (by rw [heq])
        simp [writeBack, hother]

/-- **Names of one call.** A call that is made binds the name of its result and no other, and leaves
all names bound. -/
theorem isBound_settle {function : Function} {args : List Value} (h : r.Makes call function args) :
    (r.settle call function (r.reply catalog function args)).IsBound name ↔
      r.IsBound name ∨ call.Binds name := by
  -- Either the name is given to the result, or it is only written back to.
  by_cases hbinds : call.Binds name
  case pos =>
    refine ⟨fun _ => .inr hbinds, fun _ => ?_⟩
    obtain ⟨hbind, function', htarget, hreturns⟩ := hbinds
    obtain rfl : function = function' := Option.some.inj (h.target.symm.trans htarget)
    obtain ⟨value, hvalue⟩ := Behaviour.exists_value? hreturns (r.view catalog args)
    exact Option.isSome_iff_exists.2 ⟨value, find?_bindings_settle_result hbind hvalue⟩
  case neg =>
    rw [or_iff_left hbinds]
    constructor
    · intro hafter
      by_contra hnone
      -- A name that is not bound is no argument, so nothing is written back to it.
      have hnot : .reference name ∉ call.args := fun hmem =>
        hnone ((exists_args_iff r call.args).1 ⟨args, h.resolved⟩ name hmem)
      change ((bindResult _ _ _).find? name).isSome = true at hafter
      rw [find?_bindResult (h.value?_of_not_binds hbinds),
        find?_writeBack_of_not_mem hnot] at hafter
      exact hnone hafter
    · intro hbefore
      obtain ⟨v, hv⟩ := Option.isSome_iff_exists.1 hbefore
      obtain ⟨v', hv', -⟩ : ∃ v', (r.settle call function
          (r.reply catalog function args)).bindings.find? name = some v' ∧ True :=
        h.bound_kept hbinds hv trivial fun _ _ _ _ => trivial
      exact Option.isSome_iff_exists.2 ⟨v', hv'⟩

/-- The same for a step that leaves the run going. -/
theorem isBound_of_step (h : r.step catalog call = .ok r') (hrun : r'.aborted = none) :
    r'.IsBound name ↔ r.IsBound name ∨ call.Binds name := by
  obtain ⟨function, args, hmade, rfl⟩ := makes_of_step h hrun
  exact isBound_settle hmade

/-- A name stays bound. -/
theorem isBound_kept {calls : List RecordedCall} (h : r.run catalog calls = .ok r')
    (hbound : r.IsBound name) : r'.IsBound name := by
  refine run_preserves (P := fun r => r.IsBound name) ?_ h hbound
  intro r call _ r' hbefore hstep
  rcases step_cases hstep with ⟨_, rfl⟩ | ⟨function, _, _, _, rfl⟩ | ⟨function, args, hmade, rfl⟩
  · exact hbefore
  · exact hbefore
  · exact (isBound_settle hmade).2 (.inl hbefore)

/-- An input binds its name. -/
theorem isBound_addInput {input : Input} :
    (r.addInput input).IsBound name ↔ r.IsBound name ∨ input.name = name := by
  change ((r.bindings.insert input.name _).find? name).isSome = true ↔ _
  rw [SortedMap.find?_insert]
  split
  case isTrue hname => simp [hname]
  case isFalse hname => simp [IsBound, Ne.symm hname]

/-- Inputs bind their names. -/
theorem isBound_addInputs (inputs : List Input) :
    (inputs.foldl addInput r).IsBound name ↔
      r.IsBound name ∨ ∃ input ∈ inputs, input.name = name := by
  induction inputs generalizing r with
  | nil => simp
  | cons input inputs ih =>
    rw [List.foldl_cons, ih, isBound_addInput]
    simp [or_assoc]

/-- Before the first call the names of the inputs are bound. -/
theorem isBound_start {trace : Trace} :
    (start trace).IsBound name ↔ ∃ input ∈ trace.inputs, input.name = name := by
  refine (isBound_addInputs trace.inputs).trans (or_iff_right ?_)
  simp [IsBound]

/-- **Names of a run.** While a run goes on, the names are bound that were bound before it and those
that its calls bind. -/
theorem isBound_of_run {calls : List RecordedCall} (h : r.run catalog calls = .ok r')
    (hrun : r'.aborted = none) :
    r'.IsBound name ↔ r.IsBound name ∨ ∃ call ∈ calls, call.Binds name := by
  induction calls generalizing r with
  | nil =>
    obtain rfl : r = r' := by simpa using h
    simp
  | cons call calls ih =>
    obtain ⟨s, hs, hrest⟩ := run_cons_eq_ok_iff.1 h
    rw [ih hrest, isBound_of_step hs (running_of_run hrest hrun).1]
    simp [or_assoc]

/-! ### How a run goes -/

/-- Nothing happens once a run has ended. -/
theorem run_of_aborted (h : r.aborted ≠ none) (catalog : Catalog) (calls : List RecordedCall) :
    r.run catalog calls = .ok r := by
  induction calls with
  | nil => rfl
  | cons call calls ih =>
    have hstep : r.step catalog call = .ok r := by
      rw [step, if_pos (Option.isSome_iff_ne_none.2 h)]
    exact run_cons_eq_ok_iff.2 ⟨r, hstep, ih⟩

/-- A run makes no counter smaller. -/
theorem coverage_of_run {calls : List RecordedCall} (h : r.run catalog calls = .ok r') :
    r.coverage.Within r'.coverage := by
  refine run_preserves (P := fun s => r.coverage.Within s.coverage) ?_ h (.refl _)
  intro s call _ s' hbefore hstep
  rcases step_cases hstep with ⟨_, rfl⟩ | ⟨function, _, _, _, rfl⟩ | ⟨function, args, _, rfl⟩
  · exact hbefore
  · exact hbefore.trans (.record s.coverage function.name .fault)
  · exact hbefore.trans (.record s.coverage function.name _)

/-- The names that are bound before the call with the given index of a run. -/
def BoundBefore (r : Replay) (calls : List RecordedCall) (index : Nat) (name : String) : Prop :=
  r.IsBound name ∨ ∃ call ∈ calls.take index, call.Binds name

/-- The names that are bound before a call do not depend on later calls. -/
theorem boundBefore_append {calls : List RecordedCall} {index : Nat} (h : index ≤ calls.length)
    (more : List RecordedCall) :
    r.BoundBefore (calls ++ more) index = r.BoundBefore calls index := by
  funext name
  rw [BoundBefore, BoundBefore, List.take_append_of_le_length h]

/-- Behind the last call these are the names that the run has bound. -/
theorem boundBefore_length {calls : List RecordedCall} (h : r.run catalog calls = .ok r')
    (hrun : r'.aborted = none) : r.BoundBefore calls calls.length = r'.IsBound := by
  funext name
  rw [BoundBefore, List.take_length, isBound_of_run h hrun]

/-- **Which runs get through:** those of calls that can all be made, and none of which goes to a
reserved slot. -/
theorem running_iff (hrun : r.aborted = none) (catalog : Catalog) (calls : List RecordedCall) :
    (∃ r', r.run catalog calls = .ok r' ∧ r'.aborted = none) ↔
      ∀ (index : Nat) (call : RecordedCall), calls[index]? = some call →
        call.Resolves (r.BoundBefore calls index) ∧ ¬ call.CallsReserved := by
  -- The induction is from the end: the names that are bound before a call are then those that the
  -- shorter run has bound.
  induction calls using List.reverseRecOn with
  | nil => exact ⟨fun _ index call hget => (by simp at hget), fun _ => ⟨r, rfl, hrun⟩⟩
  | append_singleton calls last ih =>
    have hget {index : Nat} (hlt : index < calls.length) :
        (calls ++ [last])[index]? = calls[index]? := List.getElem?_append_left hlt
    constructor
    · rintro ⟨r', h, hrun'⟩ index call hcall
      obtain ⟨s, hs, hlast⟩ := run_append_eq_ok_iff.1 h
      have hs' : s.aborted = none := (running_of_run hlast hrun').1
      have hle : index ≤ calls.length := by
        have := (List.getElem?_eq_some_iff.1 hcall).1
        simpa [Nat.lt_succ_iff] using this
      rw [boundBefore_append hle]
      rcases Nat.lt_or_eq_of_le hle with hlt | rfl
      · exact ih.1 ⟨s, hs, hs'⟩ index call (hget hlt ▸ hcall)
      · obtain rfl : last = call := by simpa using hcall
        rw [boundBefore_length hs hs']
        obtain ⟨t, ht, hnil⟩ := run_cons_eq_ok_iff.1 hlast
        obtain rfl : t = r' := by simpa using hnil
        exact (step_running_iff hs' catalog).1 ⟨t, ht, hrun'⟩
    · intro h
      obtain ⟨s, hs, hs'⟩ := ih.2 fun index call hcall => by
        have hlt := (List.getElem?_eq_some_iff.1 hcall).1
        have := h index call ((hget hlt).trans hcall)
        rwa [boundBefore_append (Nat.le_of_lt hlt)] at this
      have hlast := h calls.length last (by simp)
      rw [boundBefore_append (Nat.le_refl _), boundBefore_length hs hs'] at hlast
      obtain ⟨r', hstep, hrun'⟩ := (step_running_iff hs' catalog).2 hlast
      exact ⟨r', run_append_eq_ok_iff.2 ⟨s, hs, run_cons_eq_ok_iff.2 ⟨r', hstep, rfl⟩⟩, hrun'⟩

/-- A run that ends gets through up to some call, and that call ends it. -/
theorem exists_abort_of_run {calls : List RecordedCall} (h : r.run catalog calls = .ok r')
    (hrun : r.aborted = none) (hend : r'.aborted ≠ none) :
    ∃ before call after s, calls = before ++ call :: after ∧ r.run catalog before = .ok s ∧
      s.aborted = none ∧ s.step catalog call = .ok r' := by
  induction calls generalizing r with
  | nil =>
    obtain rfl : r = r' := by simpa using h
    exact absurd hrun hend
  | cons call calls ih =>
    obtain ⟨s, hs, hrest⟩ := run_cons_eq_ok_iff.1 h
    by_cases hs' : s.aborted = none
    · obtain ⟨before, last, after, t, rfl, hbefore, ht, hlast⟩ := ih hrest hs'
      exact ⟨call :: before, last, after, t, rfl, run_cons_eq_ok_iff.2 ⟨s, hs, hbefore⟩, ht, hlast⟩
    · rw [run_of_aborted hs'] at hrest
      cases hrest
      exact ⟨[], call, calls, r, rfl, rfl, hrun, hs⟩

/-- **Which runs end where:** at the first call that goes to a reserved slot, if it and all calls
before it can be made. -/
theorem aborted_iff (hrun : r.aborted = none) (catalog : Catalog) (calls : List RecordedCall)
    (index : Nat) :
    (∃ r' fault, r.run catalog calls = .ok r' ∧
        r'.aborted = some ⟨r.traceIndex + index, fault⟩) ↔
      (∃ call, calls[index]? = some call ∧ call.CallsReserved) ∧
      (∀ earlier < index, ∀ call, calls[earlier]? = some call → ¬ call.CallsReserved) ∧
      ∀ upto ≤ index, ∀ call, calls[upto]? = some call →
        call.Resolves (r.BoundBefore calls upto) := by
  constructor
  · rintro ⟨r', fault, h, hend⟩
    obtain ⟨before, last, after, s, rfl, hbefore, hs, hlast⟩ :=
      exists_abort_of_run h hrun (by simp [hend])
    obtain ⟨hindex, hresolves, hreserved⟩ :=
      (step_aborted_iff hs catalog).1 ⟨r', fault, hlast, hend⟩
    -- The index of the trace has counted every call that was made.
    obtain rfl : index = before.length := by
      have hcount := (running_of_run hbefore hs).2.2
      omega
    have hthrough := (running_iff hrun catalog before).1 ⟨s, hbefore, hs⟩
    have hget {j : Nat} (hj : j < before.length) :
        (before ++ last :: after)[j]? = before[j]? := List.getElem?_append_left hj
    refine ⟨⟨last, by simp, hreserved⟩, ?_, ?_⟩
    · intro earlier hlt call hcall
      exact (hthrough earlier call (hget hlt ▸ hcall)).2
    · intro upto hle call hcall
      rw [boundBefore_append hle]
      rcases Nat.lt_or_eq_of_le hle with hlt | rfl
      · exact (hthrough upto call (hget hlt ▸ hcall)).1
      · obtain rfl : last = call := by simpa using hcall
        rw [boundBefore_length hbefore hs]
        exact hresolves
  · -- The run is cut at the call: what comes before gets through, and what comes after is not seen.
    rintro ⟨⟨last, hlast, hreserved⟩, hfree, hresolves⟩
    obtain ⟨before, after, rfl, rfl⟩ : ∃ before after, calls = before ++ last :: after ∧
        index = before.length := by
      obtain ⟨hlt, hget⟩ := List.getElem?_eq_some_iff.1 hlast
      refine ⟨calls.take index, calls.drop (index + 1), ?_, by simp [Nat.le_of_lt hlt]⟩
      rw [← hget, ← List.drop_eq_getElem_cons, List.take_append_drop]
    obtain ⟨s, hs, hs'⟩ := (running_iff hrun catalog before).2 fun j call hcall => by
      have hlt := (List.getElem?_eq_some_iff.1 hcall).1
      have hcall' : (before ++ last :: after)[j]? = some call := by
        rw [List.getElem?_append_left hlt, hcall]
      have hmade := hresolves j (Nat.le_of_lt hlt) call hcall'
      rw [boundBefore_append (Nat.le_of_lt hlt)] at hmade
      exact ⟨hmade, hfree j hlt call hcall'⟩
    have hmade := hresolves before.length (Nat.le_refl _) last hlast
    rw [boundBefore_append (Nat.le_refl _), boundBefore_length hs hs'] at hmade
    obtain ⟨r', fault, hstep, hend⟩ := (step_aborted_iff hs' catalog).2
      ⟨(running_of_run hs hs').2.2.symm, hmade, hreserved⟩
    have hrest := run_of_aborted (r := r') (by simp [hend]) catalog after
    exact ⟨r', fault,
      run_append_eq_ok_iff.2 ⟨s, hs, run_cons_eq_ok_iff.2 ⟨r', hstep, hrest⟩⟩, hend⟩

end Replay

/-! ### Replays -/

namespace Trace

/-- **Replays compose, up to the first fault.** Of a trace with calls of a first and a second part:

* an error in the first part is the error of the whole;
* if the first part is aborted, the whole gives the same outcome, whatever the second part holds;
* otherwise a replay of the whole adds its reports behind those of the first part, for calls of the
  second part, makes no counter of a function smaller, and keeps all names bound;
* the whole is aborted at a call exactly if that is the first call that goes to a reserved slot, and
  it and all calls before it have a function as their target and only bound names among their
  arguments. -/
theorem replay_append {trace : Trace} {first second : List RecordedCall}
    (hcalls : trace.calls = first ++ second) (catalog : Catalog) :
    (∀ error, { trace with calls := first }.replay catalog = .error error →
      trace.replay catalog = .error error) ∧
    (∀ r, { trace with calls := first }.replay catalog = .ok r → r.aborted ≠ none →
      trace.replay catalog = .ok r) ∧
    (∀ r r', { trace with calls := first }.replay catalog = .ok r → r.aborted = none →
      trace.replay catalog = .ok r' →
      (∃ new, r'.reports = r.reports ++ new ∧ ∀ report ∈ new, first.length ≤ report.callIndex) ∧
      r.coverage.Within r'.coverage ∧ ∀ name, r.IsBound name → r'.IsBound name) ∧
    (trace.pointerBits ∈ supportedWidths → ∀ index : Nat,
      (∃ r fault, trace.replay catalog = .ok r ∧ r.aborted = some ⟨index, fault⟩) ↔
        (∃ call, trace.calls[index]? = some call ∧ call.CallsReserved) ∧
        (∀ earlier < index, ∀ call, trace.calls[earlier]? = some call → ¬ call.CallsReserved) ∧
        ∀ upto ≤ index, ∀ call, trace.calls[upto]? = some call →
          call.Resolves (trace.BoundBefore upto)) := by
  have hfirst : { trace with calls := first }.replay catalog =
      if trace.pointerBits ∈ supportedWidths then (Replay.start trace).run catalog first
      else .error (.unsupportedWidth trace.pointerBits.toNat) := replay_eq_run _ _
  have hwhole : trace.replay catalog =
      ({ trace with calls := first }.replay catalog).bind fun s => s.run catalog second := by
    rw [replay_eq_run, hcalls, hfirst]
    split
    · exact Replay.run_append catalog _ first second
    · rfl
  refine ⟨?_, ?_, ?_, ?_⟩
  · intro error herror
    rw [hwhole, herror]
    rfl
  · intro r hr hend
    rw [hwhole, hr]
    exact Replay.run_of_aborted hend catalog second
  · intro r r' hr hrun hr'
    rw [hwhole, hr] at hr'
    -- Reports are marked with the counter of calls, which has counted all of the first part.
    have hcount : r.callIndex = first.length := by
      rw [hfirst] at hr
      split at hr
      case isTrue =>
        rw [(Replay.running_of_run hr hrun).2.1, (Replay.start_fresh trace).2.1, Nat.zero_add]
      case isFalse => cases hr
    rw [← hcount]
    exact ⟨Replay.reports_of_run hr', Replay.coverage_of_run hr',
      fun name => Replay.isBound_kept hr'⟩
  · intro hwidth index
    -- At the start only inputs are bound, so both forms of `BoundBefore` say the same.
    have hbound (upto : Nat) :
        (Replay.start trace).BoundBefore trace.calls upto = trace.BoundBefore upto := by
      funext name
      rw [Replay.BoundBefore, BoundBefore, Replay.isBound_start]
    have hends := Replay.aborted_iff (Replay.start_running trace) catalog trace.calls index
    rw [(Replay.start_fresh trace).2.2, Nat.zero_add] at hends
    simp only [hbound] at hends
    rw [replay_eq_run, if_pos hwidth]
    exact hends

/-- Calls of which the second goes to a reserved slot. -/
def reservedCalls : List RecordedCall :=
  [⟨.function "GetVersion", [], some "version"⟩, ⟨.slot 2, [], none⟩]

/-- The same calls, and behind them two that cannot be made: the first has no function as its
target, and the second has a name among its arguments that is not bound. -/
def brokenTrace : Trace where
  calls := reservedCalls ++
    [⟨.function "NoSuchFunction", [], none⟩, ⟨.function "GetVersion", [.reference "none"], none⟩]

set_option maxRecDepth 20000 in
/-- Calls that cannot be made do no harm behind a call of a reserved slot. -/
theorem replay_append_brokenTrace :
    ∃ r, brokenTrace.replay {} = .ok r ∧ r.aborted = some ⟨1, .reservedSlot 2⟩ ∧
      ∃ call, brokenTrace.calls[1]? = some call ∧ call.CallsReserved := by
  obtain ⟨r, hr, hend⟩ : ∃ r, { brokenTrace with calls := reservedCalls }.replay {} = .ok r ∧
      r.aborted = some ⟨1, .reservedSlot 2⟩ := ⟨_, rfl, rfl⟩
  have hcalls : brokenTrace.calls = reservedCalls ++ brokenTrace.calls.drop 2 := rfl
  obtain ⟨-, hsame, -, hends⟩ := replay_append hcalls {}
  have hwhole := hsame r hr (by simp [hend])
  exact ⟨r, hwhole, hend, ((hends (by decide) 1).1 ⟨r, _, hwhole, hend⟩).1⟩

end Trace

end NativeFlow
