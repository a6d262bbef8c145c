import Mathlib.Algebra.Ring.Nat
import NativeFlow.Proofs.Composition

namespace NativeFlow

/-!
# The books of a run

A replay counts the calls that it makes, in total and by function, and marks its reports with the
calls that led to them. All these counts agree with the list of calls of the trace.

* `SortedMap.sum_addCount`: the sum of counters grows by what is added to one of them.
* `Coverage.Balanced`: the counters of a coverage agree with each other
  (`Coverage.Balanced.record`).
* `Replay.executed`: the calls that were made.
* `Replay.Accounts`: the books of a replay agree with a list of calls. `Replay.Accounts.step` is
  about one call, `Replay.accounts_of_run` about a run.
* `Trace.replay_accounts`: the books of a replay agree with the calls that it made.
-/

/-! ### Sums of counters -/

/-- The new sum and the count that gave way are the old sum and the count that took its place. -/
theorem Assoc.sum_insert {κ : Type} [Ord κ] [Std.TransOrd κ] [Std.LawfulEqOrd κ]
    {entries : List (κ × Nat)} (h : Sorted entries) (key : κ) (count : Nat) :
    ((insert key count entries).map Prod.snd).sum + (find? key entries).getD 0 =
      (entries.map Prod.snd).sum + count := by
  -- Induction on the list, as `Assoc.insert` goes through it: the key comes before the first entry,
  -- is that of the first entry, or comes after it.
  induction entries with
  | nil => simp [insert, find?]
  | cons entry rest ih =>
    obtain ⟨k, n⟩ := entry
    obtain ⟨hhead, hrest⟩ := List.pairwise_cons.1 h
    simp only [insert]
    split
    case h_1 hlt =>
      -- The key is below all keys of the list, so it had no count.
      have hnone : find? key ((k, n) :: rest) = none := by
        refine find?_eq_none_of_lt fun other hmem => ?_
        rcases List.mem_cons.1 hmem with rfl | hmem
        · exact hlt
        · exact Std.TransCmp.lt_trans hlt (hhead other hmem)
      simp only [hnone, List.map_cons, List.sum_cons, Option.getD_none]
      omega
    case h_2 heq =>
      simp only [find?, heq, if_true, List.map_cons, List.sum_cons, Option.getD_some]
      omega
    case h_3 hgt =>
      have hsum := ih hrest
      simp only [find?, hgt, reduceCtorEq, if_false, List.map_cons, List.sum_cons]
      omega

/-- The sum of counters grows by what is added to one of them. -/
theorem SortedMap.sum_addCount (counts : SortedMap String Nat) (key : String) (amount : Nat) :
    (counts.addCount key amount).values.sum = counts.values.sum + amount := by
  have hsum := Assoc.sum_insert counts.sorted key ((counts.find? key).getD 0 + amount)
  change (counts.addCount key amount).values.sum + (counts.find? key).getD 0 =
    counts.values.sum + ((counts.find? key).getD 0 + amount) at hsum
  omega

/-- The counters of a coverage agree with each other: the calls of all functions are all calls, the
calls of all functions about which nothing is known are all such calls, and no function has more of
these than it has calls. -/
structure Coverage.Balanced (coverage : Coverage) : Prop where
  perFunction : coverage.perFunction.values.sum = coverage.total
  fallbackFunctions : coverage.fallbackFunctions.values.sum = coverage.fallback
  fallback_le : ∀ name, (coverage.fallbackFunctions.find? name).getD 0 ≤
    (coverage.perFunction.find? name).getD 0

/-- However a call went, the counters still agree after it has been counted. -/
theorem Coverage.Balanced.record {coverage : Coverage} (h : coverage.Balanced) (function : String)
    (handling : Handling) : (coverage.record function handling).Balanced := by
  have hcount (name : String) : (coverage.perFunction.find? name).getD 0 ≤
      ((coverage.perFunction.addCount function 1).find? name).getD 0 := by
    rw [SortedMap.count_addCount]
    omega
  constructor
  · rw [perFunction_record, SortedMap.sum_addCount, total_record, h.perFunction]
  · cases handling with
    | modeled | fault => exact h.fallbackFunctions
    | fallback =>
      change (coverage.fallbackFunctions.addCount function 1).values.sum = coverage.fallback + 1
      rw [SortedMap.sum_addCount, h.fallbackFunctions]
  · intro name
    rw [perFunction_record]
    cases handling with
    | modeled | fault => exact Nat.le_trans (h.fallback_le name) (hcount name)
    | fallback =>
      -- Both counters of the function grow by one, and all others stay as they are.
      change ((coverage.fallbackFunctions.addCount function 1).find? name).getD 0 ≤ _
      rw [SortedMap.count_addCount, SortedMap.count_addCount]
      have hle := h.fallback_le name
      omega

/-- Only a call that failed is counted as a fault. -/
theorem Coverage.faults_record (coverage : Coverage) (function : String) (handling : Handling) :
    (coverage.record function handling).faults =
      coverage.faults + if handling = .fault then 1 else 0 := by
  cases handling <;> rfl

/-- A call that is settled is no fault. -/
theorem Replay.faults_settle (r : Replay) (call : RecordedCall) (function : Function)
    (reply : Reply) : (r.settle call function reply).coverage.faults = r.coverage.faults := by
  have hhandling : (if reply.effect.modeled then Handling.modeled else .fallback) ≠ .fault := by
    split <;> simp
  simp only [settle, Coverage.faults_record, if_neg hhandling, Nat.add_zero]

/-! ### The calls that were made -/

namespace Replay

/-- The calls that a replay has made of those it was given: all of them, or those up to the call
that ended it. -/
def executed (r : Replay) (calls : List RecordedCall) : List RecordedCall :=
  match r.aborted with
  | none => calls
  | some abort => calls.take (abort.callIndex + 1)

/-- The books of a replay agree with the calls that it has made. -/
structure Accounts (r : Replay) (made : List RecordedCall) : Prop where
  /-- Every call is counted. -/
  callIndex : r.callIndex = made.length
  traceIndex : r.traceIndex = made.length
  total : r.coverage.total = made.length
  /-- And it is counted for the function that it goes to. -/
  perFunction : ∀ function ∈ Interface.functions,
    (r.coverage.perFunction.find? function.name).getD 0 =
      made.countP fun call => call.target.resolve? = some function
  balanced : r.coverage.Balanced
  /-- The last call is the one that ended the run, if one did. -/
  faults : r.coverage.faults = if r.aborted.isSome then 1 else 0
  aborted : ∀ abort, r.aborted = some abort → abort.callIndex + 1 = made.length
  /-- Reports come in the order of the calls. -/
  ordered : r.reports.Pairwise fun report later => report.callIndex ≤ later.callIndex
  /-- They are marked with a call that was made and with its function. -/
  reports : ∀ report ∈ r.reports, ∃ call function, made[report.callIndex]? = some call ∧
    call.target.resolve? = some function ∧ report.function = function.name
  /-- The call that ended the run reports nothing. -/
  silent : ∀ abort, r.aborted = some abort → ∀ report ∈ r.reports,
    report.callIndex ≠ abort.callIndex

variable {catalog : Catalog} {r r' : Replay} {call : RecordedCall} {function : Function}
  {made : List RecordedCall}

/-- The books of a replay that has just started are empty. -/
theorem accounts_start (trace : Trace) : (start trace).Accounts [] := by
  obtain ⟨machine, bindings, hstart⟩ := start_eq trace
  rw [hstart]
  constructor
  · rfl
  · rfl
  · rfl
  · intro function _
    rfl
  · exact ⟨rfl, rfl, fun _ => Nat.le_refl _⟩
  · rfl
  · intro abort habort
    cases habort
  · exact .nil
  · intro report hmem
    exact absurd hmem List.not_mem_nil
  · intro abort habort
    cases habort

namespace Accounts

/-- A report is marked with a call that was made. -/
theorem callIndex_lt (h : r.Accounts made) {report : Report} (hmem : report ∈ r.reports) :
    report.callIndex < made.length := by
  obtain ⟨call, function, hcall, -⟩ := h.reports report hmem
  exact (List.getElem?_eq_some_iff.1 hcall).1

/-- One more call of a function is one more call of that function and of no other. -/
theorem count_record (h : r.Accounts made) (htarget : call.target.resolve? = some function)
    (handling : Handling) (other : Function) (hother : other ∈ Interface.functions) :
    ((r.coverage.record function.name handling).perFunction.find? other.name).getD 0 =
      (made ++ [call]).countP fun call => call.target.resolve? = some other := by
  -- Functions are counted by name, and no other function has the name.
  have hsame : other.name = function.name ↔ call.target.resolve? = some other := by
    rw [htarget, Option.some.injEq]
    constructor
    · exact fun hname => Interface.eq_of_name (Target.mem_of_resolve? htarget) hother hname.symm
    · exact fun heq => by rw [heq]
  rw [Coverage.perFunction_record, SortedMap.count_addCount, h.perFunction other hother,
    List.countP_append, List.countP_singleton]
  simp only [hsame, decide_eq_true_eq]

/-- Reports of earlier calls are marked as before when one more call is made. -/
theorem reports_append (h : r.Accounts made) (call : RecordedCall) {report : Report}
    (hmem : report ∈ r.reports) :
    ∃ call' function, (made ++ [call])[report.callIndex]? = some call' ∧
      call'.target.resolve? = some function ∧ report.function = function.name := by
  obtain ⟨call', function, hcall, hrest⟩ := h.reports report hmem
  refine ⟨call', function, ?_, hrest⟩
  rw [List.getElem?_append_left (h.callIndex_lt hmem), hcall]

/-- A call that is settled: its reports are marked with the number of the calls before it. -/
theorem settle (h : r.Accounts made) (hrun : r.aborted = none)
    (htarget : call.target.resolve? = some function) (reply : Reply) :
    (r.settle call function reply).Accounts (made ++ [call]) := by
  have hnew : ∀ report ∈ reply.effect.findings.map (fun finding =>
      ({ callIndex := r.callIndex, function := function.name, finding } : Report)),
      report.callIndex = made.length ∧ report.function = function.name := by
    intro report hmem
    obtain ⟨finding, -, rfl⟩ := List.mem_map.1 hmem
    exact ⟨h.callIndex, rfl⟩
  constructor
  · simp [Replay.settle, h.callIndex]
  · simp [Replay.settle, h.traceIndex]
  · simp [Replay.settle, h.total]
  · exact h.count_record htarget _
  · exact h.balanced.record _ _
  · have hfaults := h.faults
    rw [hrun] at hfaults
    rw [Replay.faults_settle, hfaults]
    rfl
  · intro abort habort
    cases habort
  · -- Behind the reports of earlier calls come those of this call.
    refine List.pairwise_append.2 ⟨h.ordered, ?_, ?_⟩
    · refine List.pairwise_of_forall_mem_list fun report hmem later hlater => ?_
      exact Nat.le_of_eq ((hnew report hmem).1.trans (hnew later hlater).1.symm)
    · intro report hmem later hlater
      rw [(hnew later hlater).1]
      exact Nat.le_of_lt (h.callIndex_lt hmem)
  · intro report hmem
    rcases List.mem_append.1 hmem with hold | hadded
    · exact h.reports_append call hold
    · obtain ⟨hindex, hname⟩ := hnew report hadded
      exact ⟨call, function, by simp [hindex], htarget, hname⟩
  · intro abort habort
    cases habort

/-- A call that ends the run: it is counted, but it reports nothing. -/
theorem abort (h : r.Accounts made) (hrun : r.aborted = none)
    (htarget : call.target.resolve? = some function) (fault : Fault) :
    (r.abort function fault).Accounts (made ++ [call]) := by
  constructor
  · simp [Replay.abort, h.callIndex]
  · simp [Replay.abort, h.traceIndex]
  · simp [Replay.abort, h.total]
  · exact h.count_record htarget .fault
  · exact h.balanced.record function.name .fault
  · have hfaults := h.faults
    rw [hrun] at hfaults
    simp only [Replay.abort, Coverage.faults_record, hfaults]
    rfl
  · intro abort habort
    cases habort
    simp [h.traceIndex]
  · exact h.ordered
  · intro report hmem
    exact h.reports_append call hmem
  · -- All reports are of earlier calls.
    intro abort habort report hmem
    cases habort
    have hlt := h.callIndex_lt hmem
    have hindex := h.traceIndex
    change report.callIndex ≠ r.traceIndex
    omega

/-- **One call.** The books still agree after one more call has been made. -/
theorem step (h : r.Accounts made) (hrun : r.aborted = none)
    (hstep : r.step catalog call = .ok r') : r'.Accounts (made ++ [call]) := by
  -- The run has not ended before the call, so the call is made: it ends the run or is settled.
  rcases step_cases hstep with
    ⟨hend, rfl⟩ | ⟨function, _, htarget, _, rfl⟩ | ⟨function, args, hmade, rfl⟩
  · rw [hrun] at hend
    exact absurd hend (by simp)
  · exact h.abort hrun htarget _
  · exact h.settle hrun hmade.target _

/-- A run that gets through makes all its calls. -/
theorem run (h : r.Accounts made) {calls : List RecordedCall}
    (hrun : r.run catalog calls = .ok r') (hend : r'.aborted = none) :
    r'.Accounts (made ++ calls) := by
  -- Induction on the calls, with `made` growing at its end.
  induction calls generalizing r made with
  | nil =>
    obtain rfl : r = r' := by simpa using hrun
    rw [List.append_nil]
    exact h
  | cons call calls ih =>
    obtain ⟨s, hs, hrest⟩ := run_cons_eq_ok_iff.1 hrun
    have hstart : r.aborted = none := (running_of_run hrun hend).1
    have hrecorded := ih (h.step hstart hs) hrest
    rw [List.append_assoc] at hrecorded
    exact hrecorded

end Accounts

/-- **A run.** Its books agree with the calls that it has made, whether it ended early or not. -/
theorem accounts_of_run {trace : Trace} {calls : List RecordedCall}
    (h : (start trace).run catalog calls = .ok r) : r.Accounts (r.executed calls) := by
  by_cases hend : r.aborted = none
  · have hexecuted : r.executed calls = calls := by
      rw [executed, hend]
    rw [hexecuted]
    exact (accounts_start trace).run h hend
  · -- The run gets through up to a call, and that call ends it.
    obtain ⟨before, last, after, s, rfl, hbefore, hs, hlast⟩ :=
      exists_abort_of_run h (start_running trace) hend
    have hmade : r.Accounts (before ++ [last]) :=
      ((accounts_start trace).run hbefore hs).step hs hlast
    obtain ⟨abort, habort⟩ := Option.ne_none_iff_exists'.1 hend
    have hexecuted : r.executed (before ++ last :: after) = before ++ [last] := by
      have hlength := hmade.aborted abort habort
      have hsplit : before ++ last :: after = (before ++ [last]) ++ after := by simp
      rw [executed, habort]
      change List.take (abort.callIndex + 1) _ = _
      rw [hlength, hsplit, List.take_left]
    rw [hexecuted]
    exact hmade

end Replay

/-! ### Replays -/

namespace Trace

/-- **Run accounting is exact.** Let a trace be replayed, and let the calls that were made be all
of its calls, or those up to the call that ended the replay. Then

* the total of the coverage and the sum of its counters by function are the number of these calls,
  and the counter of a function is the number of those that go to the function;
* the counter by which reports are marked and the one by which the end of a replay is marked are
  that number too;
* the counters of calls about whose result nothing is known add up to the number of such calls, and
  none of them is larger than the function's counter of all calls;
* there is one fault if the replay was ended by a call, which then is the last one, and none
  otherwise;
* the reports come in the order of the calls, each is marked with a call that was made and with the
  name of the function that this call goes to, and none with the call that ended the replay. -/
theorem replay_accounts {trace : Trace} {catalog : Catalog} {r : Replay}
    (h : trace.replay catalog = .ok r) :
    let made := r.executed trace.calls
    (r.coverage.total = made.length ∧ r.coverage.perFunction.values.sum = made.length) ∧
    (r.callIndex = made.length ∧ r.traceIndex = made.length) ∧
    (∀ function ∈ Interface.functions,
      (r.coverage.perFunction.find? function.name).getD 0 =
        made.countP fun call => call.target.resolve? = some function) ∧
    r.coverage.fallbackFunctions.values.sum = r.coverage.fallback ∧
    (∀ name, (r.coverage.fallbackFunctions.find? name).getD 0 ≤
      (r.coverage.perFunction.find? name).getD 0) ∧
    (r.aborted = none → r.coverage.faults = 0) ∧
    (∀ abort, r.aborted = some abort →
      r.coverage.faults = 1 ∧ abort.callIndex + 1 = made.length) ∧
    (r.reports.Pairwise fun report later => report.callIndex ≤ later.callIndex) ∧
    (∀ report ∈ r.reports, report.callIndex < made.length ∧
      ∃ call function, trace.calls[report.callIndex]? = some call ∧
        call.target.resolve? = some function ∧ report.function = function.name) ∧
    (∀ abort, r.aborted = some abort → ∀ report ∈ r.reports,
      report.callIndex ≠ abort.callIndex) := by
  have haccounts : r.Accounts (r.executed trace.calls) := by
    rw [replay_eq_run] at h
    split at h
    case isTrue => exact Replay.accounts_of_run h
    case isFalse => cases h
  intro made
  refine ⟨⟨haccounts.total, ?_⟩, ⟨haccounts.callIndex, haccounts.traceIndex⟩, haccounts.perFunction,
    haccounts.balanced.fallbackFunctions, haccounts.balanced.fallback_le, ?_, ?_,
    haccounts.ordered, ?_, haccounts.silent⟩
  · rw [haccounts.balanced.perFunction, haccounts.total]
  · intro hend
    rw [haccounts.faults, hend]
    rfl
  · intro abort habort
    refine ⟨?_, haccounts.aborted abort habort⟩
    rw [haccounts.faults, habort]
    rfl
  · intro report hmem
    have hlt : report.callIndex < made.length := haccounts.callIndex_lt hmem
    obtain ⟨call, function, hcall, hresolves⟩ := haccounts.reports report hmem
    refine ⟨hlt, call, function, ?_, hresolves⟩
    -- The calls that were made are the first ones of the trace.
    obtain ⟨rest, hrest⟩ : made <+: trace.calls := by
      change r.executed trace.calls <+: trace.calls
      unfold Replay.executed
      split
      · exact List.prefix_rfl
      · exact List.take_prefix _ _
    rw [← hrest, List.getElem?_append_left hlt, hcall]

/-- A run that registers a native method twice in one call, after a call about whose result nothing
is known, and that is then ended by a call of a reserved slot. -/
def registeringTrace : Trace where
  memory := [⟨4096, .text "run"⟩, ⟨4160, .text "()V"⟩,
    ⟨4224, .words [4096, 4160, 0x1000, 4096, 4160, 0x3000]⟩]
  inputs := [⟨"class", .classObject "Worker"⟩]
  calls := [
    ⟨.function "GetVersion", [], none⟩,
    ⟨.function "RegisterNatives", [.reference "class", .address 4224, .literal 2], none⟩,
    ⟨.slot 2, [], none⟩,
    ⟨.function "GetVersion", [], none⟩]

set_option maxRecDepth 20000 in
/-- Three of the four calls were made. The second one has a report, and the third one ended the
run. -/
theorem replay_accounts_registeringTrace :
    ∃ r, registeringTrace.replay {} = .ok r ∧ (r.executed registeringTrace.calls).length = 3 ∧
      r.reports.map (·.callIndex) = [1] ∧ r.coverage.total = 3 ∧ r.coverage.fallback = 1 ∧
      r.coverage.faults = 1 := by
  obtain ⟨r, hr, hend, hreports, hfallback⟩ : ∃ r, registeringTrace.replay {} = .ok r ∧
      r.aborted = some ⟨2, .reservedSlot 2⟩ ∧ r.reports.map (·.callIndex) = [1] ∧
      r.coverage.fallback = 1 := ⟨_, rfl, rfl, rfl, rfl⟩
  obtain ⟨⟨htotal, -⟩, -, -, -, -, -, hfaults, -⟩ := replay_accounts hr
  obtain ⟨hfault, hlast⟩ := hfaults _ hend
  exact ⟨r, hr, hlast.symm, hreports, htotal.trans hlast.symm, hfallback, hfault⟩

end Trace

end NativeFlow
