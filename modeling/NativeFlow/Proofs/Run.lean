import NativeFlow.Proofs.Except
import NativeFlow.Proofs.Related
import NativeFlow.Replay.Basic

namespace NativeFlow

/-!
# Steps and runs

What a single step can do is said once, and what holds along a run is derived from it.

* `Replay.run`: makes calls one after another; `Trace.replay_eq_run` reads a replay as such
  a run.
* `Replay.Makes`: a call is made and replies. Its arguments are looked up first, each by itself.
* `Replay.step_cases`: a step does nothing, aborts the run, or settles a call that was made.
* `Replay.bound_of_settle`, `Replay.bound_of_start`: where the values come from that have a name.
* `Replay.reports_of_step`, `Replay.reports_of_run`: reports are added call by call.
* `Replay.run_append`: calls may be made in two runs.
* `Replay.run_preserves`: what every step preserves, every run preserves.
* `Replay.step_agree`, `Replay.run_agree`: the same for two runs side by side. They fail with the
  same error or both succeed, in related states.
-/

namespace Replay

/-! ### One step -/

/-- What a function sees that is called with the given arguments. -/
def view (catalog : Catalog) (r : Replay) (args : List Value) : Call :=
  { machine := r.machine, catalog, natives := r.natives, args }

/-- The reply of a function to the given arguments. -/
def reply (catalog : Catalog) (r : Replay) (function : Function) (args : List Value) : Reply :=
  function.behaviour.reply (r.view catalog args)

/-- A call is made: the run has not ended, the call's target is a function that replies, and its
arguments have the given values. -/
structure Makes (r : Replay) (call : RecordedCall) (function : Function) (args : List Value) :
    Prop where
  running : r.aborted = none
  target : call.target.resolve? = some function
  replies : function.behaviour ≠ .reserved
  resolved : call.args.mapM r.argument = .ok args

variable {catalog : Catalog} {r r' : Replay} {call : RecordedCall} {function : Function}
  {args : List Value}

/-- A reference has a value exactly if its name is bound. -/
theorem argument_reference {name : String} {value : Value} :
    r.argument (.reference name) = .ok value ↔ r.bindings.find? name = some value := by
  unfold argument
  cases hfind : r.bindings.find? name <;> simp [hfind]

/-- The arguments of a call that is made, each with its value. -/
theorem Makes.argument (h : r.Makes call function args) :
    List.Forall₂ (fun arg value => r.argument arg = .ok value) call.args args :=
  mapM_eq_ok_iff.1 h.resolved

/-- The value of the argument at an index. -/
theorem Makes.getElem? (h : r.Makes call function args) {index : Nat} {arg : Argument}
    (harg : call.args[index]? = some arg) :
    ∃ value, args[index]? = some value ∧ r.argument arg = .ok value :=
  some_of_rel (rel_getElem? h.argument index) harg

/-- A call that is made is settled: `Makes` is all that `Replay.step` asks for. -/
theorem Makes.step_eq (h : r.Makes call function args) (catalog : Catalog) :
    r.step catalog call = .ok (r.settle call function (r.reply catalog function args)) := by
  simp [step, h.running, h.target, h.resolved, Function.call, h.replies, reply, view]

/-- **All that a step can do.** A run that has ended stays as it is, a reserved slot ends the run,
and any other call is settled. -/
theorem step_cases (h : r.step catalog call = .ok r') :
    (r.aborted.isSome ∧ r' = r) ∨
    (∃ function, r.aborted = none ∧ call.target.resolve? = some function ∧
      function.behaviour = .reserved ∧ r' = r.abort function (.reservedSlot function.slot)) ∨
    ∃ function args, r.Makes call function args ∧
      r' = r.settle call function (r.reply catalog function args) := by
  unfold step at h
  split at h
  case isTrue hend =>
    cases h
    exact .inl ⟨hend, rfl⟩
  case isFalse hend =>
    have hrun : r.aborted = none := by simpa using hend
    split at h
    case h_1 => cases h
    case h_2 function htarget =>
      split at h
      case h_1 => cases h
      case h_2 args hargs =>
        -- The arguments are looked up first, so a reserved slot with an unbound name is an error.
        by_cases hres : function.behaviour = .reserved
        · simp only [Function.call, hres, if_true] at h
          cases h
          exact .inr (.inl ⟨function, hrun, htarget, hres, rfl⟩)
        · simp only [Function.call, hres, if_false] at h
          cases h
          exact .inr (.inr ⟨function, args, ⟨hrun, htarget, hres, hargs⟩, rfl⟩)

/-- A step that leaves the run going is a call that was made. -/
theorem makes_of_step (h : r.step catalog call = .ok r') (hrun : r'.aborted = none) :
    ∃ function args, r.Makes call function args ∧
      r' = r.settle call function (r.reply catalog function args) := by
  rcases step_cases h with ⟨hend, rfl⟩ | ⟨function, _, _, _, rfl⟩ | hmade
  · rw [hrun] at hend
    exact absurd hend (by simp)
  · exact absurd hrun (by simp [abort])
  · exact hmade

/-! ### Where bound values come from -/

/-- After `writeBack` a name is bound as before, or to one of the values that were written back. -/
theorem bound_of_writeBack {bindings : SortedMap String Value} {callArgs : List Argument}
    {values : List Value} {name : String} {v : Value}
    (h : (writeBack bindings callArgs values).find? name = some v) :
    bindings.find? name = some v ∨ v ∈ values := by
  -- Induction on the arguments; the bindings change along the way.
  induction callArgs generalizing bindings values with
  | nil => exact .inl h
  | cons arg callArgs ih =>
    cases values with
    | nil => exact .inl h
    | cons value values =>
      -- The first argument is written back, and the others after it.
      have hcons : writeBack bindings (arg :: callArgs) (value :: values) =
          writeBack (writeBack bindings [arg] [value]) callArgs values := rfl
      rw [hcons] at h
      rcases ih h with hfirst | hrest
      · cases arg with
        | literal handle | address handle => exact .inl hfirst
        | reference key =>
          have hinsert : writeBack bindings [.reference key] [value] =
              bindings.insert key value := rfl
          rw [hinsert, SortedMap.find?_insert] at hfirst
          split at hfirst
          · cases hfirst
            exact .inr List.mem_cons_self
          · exact .inl hfirst
      · exact .inr (List.mem_cons_of_mem _ hrest)

/-- After `bindResult` a name is bound as before, or to the result. -/
theorem bound_of_bindResult {bindings : SortedMap String Value} {name? : Option String}
    {value? : Option Value} {name : String} {v : Value}
    (h : (bindResult bindings name? value?).find? name = some v) :
    bindings.find? name = some v ∨ value? = some v := by
  unfold bindResult at h
  split at h
  case h_1 key value =>
    rw [SortedMap.find?_insert] at h
    split at h
    · exact .inr h
    · exact .inl h
  case h_2 => exact .inl h

/-- A value that has a name after `Replay.settle` had it before, or is an argument as the call left
it, or is the result of the call. -/
theorem bound_of_settle {reply : Reply} {name : String} {v : Value}
    (h : (r.settle call function reply).bindings.find? name = some v) :
    r.bindings.find? name = some v ∨ v ∈ reply.effect.args ∨ reply.value? = some v := by
  rcases bound_of_bindResult h with hwritten | hresult
  · exact (bound_of_writeBack hwritten).imp_right .inl
  · exact .inr (.inr hresult)

/-- What holds of all values that have a name, and of values about which nothing is known, holds of
all arguments. -/
theorem Makes.forall_args {P : Value → Prop} (h : r.Makes call function args)
    (hbound : ∀ name v, r.bindings.find? name = some v → P v)
    (hplain : ∀ handle bits, P { handle, bits }) : ∀ v ∈ args, P v := by
  refine forall_of_forall₂ ?_ h.argument
  intro arg v hv
  cases arg with
  | literal handle | address handle =>
    cases hv
    exact hplain _ _
  | reference name => exact hbound name v (argument_reference.1 hv)

/-- **What holds of all values.** It holds of the values that have a name after a step if it holds
of those before it, of values about which nothing is known, and of what a call makes of its
arguments. -/
theorem forall_bound_of_step {P : Value → Prop} (hstep : r.step catalog call = .ok r')
    (hbound : ∀ name v, r.bindings.find? name = some v → P v)
    (hplain : ∀ handle bits, P { handle, bits })
    (hcall : ∀ function args, r.Makes call function args → (∀ v ∈ args, P v) →
      (∀ v ∈ (r.reply catalog function args).effect.args, P v) ∧
        ∀ v, (r.reply catalog function args).value? = some v → P v) :
    ∀ name v, r'.bindings.find? name = some v → P v := by
  rcases step_cases hstep with ⟨_, rfl⟩ | ⟨function, _, _, _, rfl⟩ | ⟨function, args, hmade, rfl⟩
  · exact hbound
  · exact hbound
  · obtain ⟨hleft, hresult⟩ := hcall function args hmade (hmade.forall_args hbound hplain)
    intro name v hv
    rcases bound_of_settle hv with hold | harg | hnew
    · exact hbound name v hold
    · exact hleft v harg
    · exact hresult v hnew

/-- A value that has a name before the first call is an input. -/
theorem bound_of_start {trace : Trace} {name : String} {v : Value}
    (h : (start trace).bindings.find? name = some v) :
    ∃ input ∈ trace.inputs, input.name = name ∧ v.notes = input.value.notes := by
  -- The inputs are added one by one, so the claim is about any state to start with.
  have hadd : ∀ (inputs : List Input) (r : Replay),
      (inputs.foldl addInput r).bindings.find? name = some v → r.bindings.find? name = some v ∨
        ∃ input ∈ inputs, input.name = name ∧ v.notes = input.value.notes := by
    intro inputs
    induction inputs with
    | nil => exact fun _ hv => .inl hv
    | cons input inputs ih =>
      intro r hv
      -- A later input of the same name takes the place of this one.
      rcases ih (r.addInput input) hv with hfirst | ⟨later, hmem, hlater⟩
      · change (r.bindings.insert input.name _).find? name = some v at hfirst
        rw [SortedMap.find?_insert] at hfirst
        split at hfirst
        case isTrue hname =>
          cases hfirst
          exact .inr ⟨input, List.mem_cons_self, hname.symm, rfl⟩
        case isFalse => exact .inl hfirst
      · exact .inr ⟨later, List.mem_cons_of_mem _ hmem, hlater⟩
  rcases hadd trace.inputs _ h with hnone | hinput
  · cases hnone
  · exact hinput

/-! ### Reports -/

/-- A step moves both counters on by one, or neither. -/
theorem counters_of_step (h : r.step catalog call = .ok r') :
    ∃ made ≤ 1, r'.callIndex = r.callIndex + made ∧ r'.traceIndex = r.traceIndex + made := by
  rcases step_cases h with ⟨_, rfl⟩ | ⟨function, _, _, _, rfl⟩ | ⟨function, args, _, rfl⟩
  · exact ⟨0, Nat.zero_le 1, rfl, rfl⟩
  · exact ⟨1, Nat.le_refl 1, rfl, rfl⟩
  · exact ⟨1, Nat.le_refl 1, rfl, rfl⟩

/-- The reports that a step adds are those of the call that it counts. -/
theorem reports_of_step (h : r.step catalog call = .ok r') :
    r.callIndex ≤ r'.callIndex ∧ ∃ new, r'.reports = r.reports ++ new ∧
      ∀ report ∈ new, report.callIndex = r.callIndex ∧ r.callIndex < r'.callIndex := by
  rcases step_cases h with ⟨_, rfl⟩ | ⟨function, _, _, _, rfl⟩ | ⟨function, args, _, rfl⟩
  · exact ⟨Nat.le_refl _, [], by simp, by simp⟩
  · exact ⟨Nat.le_succ _, [], by simp [abort], by simp⟩
  · refine ⟨Nat.le_succ _, _, rfl, ?_⟩
    intro report hmem
    obtain ⟨finding, -, rfl⟩ := List.mem_map.1 hmem
    exact ⟨rfl, Nat.lt_succ_self _⟩

/-! ### Runs -/

/-- Before the first call there are only memory and inputs. -/
theorem start_eq (trace : Trace) :
    ∃ machine bindings, start trace = { machine, bindings } := by
  have hadd : ∀ (inputs : List Input) (machine : Machine) (bindings : SortedMap String Value),
      ∃ machine' bindings', inputs.foldl addInput { machine, bindings } =
        { machine := machine', bindings := bindings' } := by
    intro inputs
    induction inputs with
    | nil => exact fun machine bindings => ⟨machine, bindings, rfl⟩
    | cons input inputs ih => exact fun machine bindings => ih _ _
  exact hadd trace.inputs _ _

/-- Before the first call nothing has been reported and no call is counted. -/
theorem start_fresh (trace : Trace) :
    (start trace).reports = [] ∧ (start trace).callIndex = 0 ∧ (start trace).traceIndex = 0 := by
  obtain ⟨machine, bindings, hstart⟩ := start_eq trace
  rw [hstart]
  exact ⟨rfl, rfl, rfl⟩

/-- No run has ended before its first call. -/
theorem start_running (trace : Trace) : (start trace).aborted = none := by
  obtain ⟨machine, bindings, hstart⟩ := start_eq trace
  rw [hstart]

/-- Makes calls one after another. -/
def run (catalog : Catalog) (r : Replay) (calls : List RecordedCall) : Except ReplayError Replay :=
  calls.foldlM (step catalog) r

@[simp] theorem run_nil (catalog : Catalog) (r : Replay) : r.run catalog [] = .ok r := rfl

/-- A run makes its first call and goes on from there. -/
theorem run_cons (catalog : Catalog) (r : Replay) (call : RecordedCall)
    (calls : List RecordedCall) :
    r.run catalog (call :: calls) = (r.step catalog call).bind fun s => s.run catalog calls := by
  rw [run, List.foldlM_cons]
  rfl

/-- A run succeeds if its first call does and the rest does from the state in between. -/
theorem run_cons_eq_ok_iff {calls : List RecordedCall} :
    r.run catalog (call :: calls) = .ok r' ↔
      ∃ s, r.step catalog call = .ok s ∧ s.run catalog calls = .ok r' := by
  rw [run_cons, bind_eq_ok_iff]

/-- Calls may be made in two runs, the second from where the first ends. -/
theorem run_append (catalog : Catalog) (r : Replay) (calls calls' : List RecordedCall) :
    r.run catalog (calls ++ calls') =
      (r.run catalog calls).bind fun s => s.run catalog calls' := by
  rw [run, List.foldlM_append]
  rfl

/-- The same for two parts of a run. -/
theorem run_append_eq_ok_iff {calls calls' : List RecordedCall} :
    r.run catalog (calls ++ calls') = .ok r' ↔
      ∃ s, r.run catalog calls = .ok s ∧ s.run catalog calls' = .ok r' := by
  rw [run_append, bind_eq_ok_iff]

/-- **What every step of a run preserves, the run preserves.** The step may be assumed to be one of
this run, from a state that the run reaches. -/
theorem run_preserves_reached {P : Replay → Prop} {calls : List RecordedCall}
    (hstep : ∀ before call after s s', calls = before ++ call :: after →
      r.run catalog before = .ok s → P s → s.step catalog call = .ok s' → P s')
    (h : r.run catalog calls = .ok r') (hr : P r) : P r' := by
  induction calls generalizing r with
  | nil =>
    obtain rfl : r = r' := by simpa using h
    exact hr
  | cons call calls ih =>
    obtain ⟨s, hs, hrest⟩ := run_cons_eq_ok_iff.1 h
    refine ih ?_ hrest (hstep [] call calls r s rfl rfl hr hs)
    intro before later after t t' hsplit hbefore
    -- What is made before a later call is made after this one.
    exact hstep (call :: before) later after t t' (by rw [hsplit, List.cons_append])
      (run_cons_eq_ok_iff.2 ⟨s, hs, hbefore⟩)

/-- **What every step preserves, every run preserves.** -/
theorem run_preserves {P : Replay → Prop} {calls : List RecordedCall}
    (hstep : ∀ r, ∀ call ∈ calls, ∀ r', P r → r.step catalog call = .ok r' → P r')
    (h : r.run catalog calls = .ok r') (hr : P r) : P r' := by
  refine run_preserves_reached ?_ h hr
  intro before call after s s' hsplit _
  exact hstep s call (by simp [hsplit]) s'

/-- **The two counters agree.** After any number of calls, the number of calls that functions have
been asked for is the place in the trace. -/
theorem traceIndex_eq_callIndex {trace : Trace} {calls : List RecordedCall}
    (h : (start trace).run catalog calls = .ok r) : r.traceIndex = r.callIndex := by
  refine run_preserves (P := fun r => r.traceIndex = r.callIndex) ?_ h ?_
  · intro r call _ r' hr hstep
    obtain ⟨made, -, hcalls, hplace⟩ := counters_of_step hstep
    rw [hcalls, hplace, hr]
  · rw [(start_fresh trace).2.1, (start_fresh trace).2.2]

/-- No call is counted twice. -/
theorem callIndex_le_of_run {calls : List RecordedCall} (h : r.run catalog calls = .ok r') :
    r'.callIndex ≤ r.callIndex + calls.length := by
  -- Induction on the calls: `counters_of_step` counts the first one.
  induction calls generalizing r with
  | nil =>
    obtain rfl : r = r' := by simpa using h
    exact Nat.le_refl _
  | cons call calls ih =>
    obtain ⟨s, hs, hrest⟩ := run_cons_eq_ok_iff.1 h
    obtain ⟨made, hmade, hcalls, -⟩ := counters_of_step hs
    have hle := ih hrest
    rw [List.length_cons]
    omega

/-- A run that has not ended had not ended before, and every call has been counted. -/
theorem running_of_run {calls : List RecordedCall} (h : r.run catalog calls = .ok r')
    (hrun : r'.aborted = none) :
    r.aborted = none ∧ r'.callIndex = r.callIndex + calls.length ∧
      r'.traceIndex = r.traceIndex + calls.length := by
  induction calls generalizing r with
  | nil =>
    obtain rfl : r = r' := by simpa using h
    exact ⟨hrun, rfl, rfl⟩
  | cons call calls ih =>
    obtain ⟨s, hs, hrest⟩ := run_cons_eq_ok_iff.1 h
    obtain ⟨hs', hindex, hplace⟩ := ih hrest
    -- A state that is still running was reached by a call that was made.
    obtain ⟨function, args, hmade, rfl⟩ := makes_of_step hs hs'
    refine ⟨hmade.running, ?_, ?_⟩
    · rw [hindex, List.length_cons]
      show r.callIndex + 1 + calls.length = _
      omega
    · rw [hplace, List.length_cons]
      show r.traceIndex + 1 + calls.length = _
      omega

/-- Every report belongs to a call that has been counted. -/
theorem callIndex_lt_of_run {trace : Trace} {calls : List RecordedCall}
    (h : (start trace).run catalog calls = .ok r) :
    ∀ report ∈ r.reports, report.callIndex < r.callIndex := by
  refine run_preserves (P := fun r => ∀ report ∈ r.reports, report.callIndex < r.callIndex)
    ?_ h ?_
  · intro r call _ r' hr hstep report hmem
    obtain ⟨hle, new, hreports, hnew⟩ := reports_of_step hstep
    rw [hreports] at hmem
    rcases List.mem_append.1 hmem with hold | hadded
    · exact Nat.lt_of_lt_of_le (hr report hold) hle
    · obtain ⟨hindex, hlt⟩ := hnew report hadded
      rw [hindex]
      exact hlt
  · rw [(start_fresh trace).1]
    intro report hmem
    exact absurd hmem List.not_mem_nil

/-- Reports are added behind those that there are, for calls that have not been counted before. -/
theorem reports_of_run {calls : List RecordedCall} (h : r.run catalog calls = .ok r') :
    ∃ new, r'.reports = r.reports ++ new ∧ ∀ report ∈ new, r.callIndex ≤ report.callIndex := by
  induction calls generalizing r with
  | nil =>
    obtain rfl : r = r' := by simpa using h
    exact ⟨[], by simp, by simp⟩
  | cons call calls ih =>
    obtain ⟨s, hs, hrest⟩ := run_cons_eq_ok_iff.1 h
    -- First come the reports of this call, then those of the calls after it.
    obtain ⟨hle, new, hreports, hnew⟩ := reports_of_step hs
    obtain ⟨later, hreports', hlater⟩ := ih hrest
    refine ⟨new ++ later, ?_, ?_⟩
    · rw [hreports', hreports, List.append_assoc]
    · intro report hmem
      rcases List.mem_append.1 hmem with hadded | hafter
      · exact Nat.le_of_eq (hnew report hadded).1.symm
      · exact Nat.le_trans hle (hlater report hafter)

/-! ### Two runs -/

section

variable {S : Value → Value → Prop}

/-- Inserting related values under a key keeps all names bound to related values. -/
theorem rel_find?_insert {bindings bindings' : SortedMap String Value}
    (h : ∀ name, Option.Rel S (bindings.find? name) (bindings'.find? name)) (key : String)
    {v v' : Value} (hv : S v v') (name : String) :
    Option.Rel S ((bindings.insert key v).find? name) ((bindings'.insert key v').find? name) := by
  rw [SortedMap.find?_insert, SortedMap.find?_insert]
  split
  · exact .some hv
  · exact h name

/-- So does writing related values back to the same arguments. -/
theorem rel_find?_writeBack {bindings bindings' : SortedMap String Value}
    (h : ∀ name, Option.Rel S (bindings.find? name) (bindings'.find? name))
    (args : List Argument) {values values' : List Value}
    (hvalues : List.Forall₂ S values values') (name : String) :
    Option.Rel S ((writeBack bindings args values).find? name)
      ((writeBack bindings' args values').find? name) := by
  unfold writeBack
  -- Both folds go along the same arguments, and only references bind a name.
  induction args generalizing bindings bindings' values values' with
  | nil => exact h name
  | cons arg args ih =>
    cases hvalues with
    | nil => exact h name
    | cons hv hrest =>
      rw [List.zip_cons_cons, List.zip_cons_cons, List.foldl_cons, List.foldl_cons]
      cases arg with
      | reference key => exact ih (rel_find?_insert h key hv) hrest
      | literal handle | address handle => exact ih h hrest

/-- So does binding related results to the same name. -/
theorem rel_find?_bindResult {bindings bindings' : SortedMap String Value}
    (h : ∀ name, Option.Rel S (bindings.find? name) (bindings'.find? name))
    (name? : Option String) {value? value?' : Option Value}
    (hvalue : Option.Rel S value? value?') (name : String) :
    Option.Rel S ((bindResult bindings name? value?).find? name)
      ((bindResult bindings' name? value?').find? name) := by
  cases name? with
  | none => exact h name
  | some key =>
    cases hvalue with
    | none => exact h name
    | some hv => exact rel_find?_insert h key hv name

/-- States that bind the same names to related values have related arguments, or miss the same
name. -/
theorem argument_agree {r r' : Replay}
    (h : ∀ name, Option.Rel S (r.bindings.find? name) (r'.bindings.find? name))
    (hnumber : ∀ handle, S { handle, bits := r.machine.pointerBits }
      { handle, bits := r'.machine.pointerBits }) (arg : Argument) :
    Agree S (r.argument arg) (r'.argument arg) := by
  cases arg with
  | literal handle | address handle => exact .ok (hnumber handle)
  | reference name =>
    have hbound := h name
    unfold argument
    dsimp only
    generalize r.bindings.find? name = value? at hbound
    generalize r'.bindings.find? name = value?' at hbound
    cases hbound with
    | some hv => exact .ok hv
    | none => exact .error name

/-- **One call in two states** that have made the same calls and have related arguments. It fails
with the same error in both, or else it ends both runs or is settled in both. -/
theorem step_agree {r r' : Replay} {catalog catalog' : Catalog} (call : RecordedCall)
    (haborted : r.aborted = r'.aborted) (hindex : r.traceIndex = r'.traceIndex)
    (hargument : ∀ arg, Agree S (r.argument arg) (r'.argument arg))
    {P : Replay → Replay → Prop} (hended : P r r')
    (habort : ∀ function fault, P (r.abort function fault) (r'.abort function fault))
    (hsettle : ∀ function args args', r.Makes call function args → r'.Makes call function args' →
      List.Forall₂ S args args' →
      P (r.settle call function (r.reply catalog function args))
        (r'.settle call function (r'.reply catalog' function args'))) :
    Agree P (r.step catalog call) (r'.step catalog' call) := by
  -- Whether the run has ended, which function is called and which names have a value is the same in
  -- both states.
  by_cases hend : r.aborted = none
  case neg =>
    have hend' : r'.aborted ≠ none := haborted ▸ hend
    simp only [step, Option.isSome_iff_ne_none.2 hend, Option.isSome_iff_ne_none.2 hend', if_true]
    exact .ok hended
  case pos =>
    have hend' : r'.aborted = none := haborted ▸ hend
    cases htarget : call.target.resolve? with
    | none =>
      simp only [step, hend, hend', htarget, hindex]
      exact .error _
    | some function =>
      have hargs := mapM_agree hargument call.args
      generalize hresolved : call.args.mapM r.argument = args? at hargs
      generalize hresolved' : call.args.mapM r'.argument = args?' at hargs
      cases hargs with
      | error name =>
        simp only [step, hend, hend', htarget, hresolved, hresolved', hindex]
        exact .error _
      | ok hargs =>
        -- Both calls are made now; a reserved slot ends both runs.
        by_cases hreserved : function.behaviour = .reserved
        · simp only [step, hend, hend', htarget, hresolved, hresolved', Function.call, hreserved,
            if_true]
          exact .ok (habort function _)
        · have hmakes := Makes.mk hend htarget hreserved hresolved
          have hmakes' := Makes.mk hend' htarget hreserved hresolved'
          rw [hmakes.step_eq, hmakes'.step_eq]
          exact .ok (hsettle function _ _ hmakes hmakes' hargs)

end

/-- What every pair of steps preserves, two runs of the same calls preserve. -/
theorem run_agree {catalog catalog' : Catalog} {P : Replay → Replay → Prop}
    (hstep : ∀ r r' call, P r r' → Agree P (r.step catalog call) (r'.step catalog' call))
    {r r' : Replay} (h : P r r') (calls : List RecordedCall) :
    Agree P (r.run catalog calls) (r'.run catalog' calls) := by
  induction calls generalizing r r' with
  | nil => exact .ok h
  | cons call calls ih =>
    rw [run_cons, run_cons]
    exact (hstep r r' call h).bind fun s s' hs => ih hs

end Replay

/-- `Trace.replay` is a run of all calls from `Replay.start`, if the width of pointers is supported.
-/
theorem Trace.replay_eq_run (trace : Trace) (catalog : Catalog) :
    trace.replay catalog =
      if trace.pointerBits ∈ supportedWidths then (Replay.start trace).run catalog trace.calls
      else .error (.unsupportedWidth trace.pointerBits.toNat) := rfl

end NativeFlow
