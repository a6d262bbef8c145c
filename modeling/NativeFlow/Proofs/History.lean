import NativeFlow.Proofs.Run

namespace NativeFlow.Replay

/-!
# Histories

What the calls of a run do to the value of a name is put down call by call, and so is what each of
them reports.

* `Replay.headEvent?`, `Replay.history`: what a call does to the value of the name that it is made
  on, and what all calls of a run do to it.
* `Replay.findingsOf`: what a call of a run has reported. `Replay.findingsOf_settled` says that this
  is what the call found, however the run goes on.
-/

variable {catalog : Catalog} {r r' s : Replay} {call : RecordedCall} {calls : List RecordedCall}
  {function : Function} {name : String} {trace : Trace}

/-! ### What is done to a name -/

section

variable {β : Type} {event? : Behaviour → Call → Option β} {event : β}

/-- What a call does to the value of a name, if its first argument is that name: `event?` reads it
off the function and what the function is given. -/
def headEvent? (event? : Behaviour → Call → Option β) (catalog : Catalog) (name : String)
    (r : Replay) (call : RecordedCall) : Option β :=
  if call.args.head? = some (.reference name) then
    match call.target.resolve?, call.args.mapM r.argument with
    | some function, .ok args => event? function.behaviour (r.view catalog args)
    | _, _ => none
  else none

/-- What all calls of a run do to the value of a name, up to a call that fails. -/
def history (event? : Behaviour → Call → Option β) (catalog : Catalog) (name : String) :
    Replay → List RecordedCall → List β
  | _, [] => []
  | r, call :: calls =>
    (headEvent? event? catalog name r call).toList ++
      match r.step catalog call with
      | .ok r' => history event? catalog name r' calls
      | .error _ => []

/-- The function and the arguments of a call that is made are known. -/
theorem Makes.headEvent?_eq {args : List Value} (h : r.Makes call function args) :
    headEvent? event? catalog name r call =
      if call.args.head? = some (.reference name) then
        event? function.behaviour (r.view catalog args)
      else none := by
  unfold headEvent?
  rw [h.target, h.resolved]

/-- What is put down for a call was read off some function and what it was given. -/
theorem exists_of_headEvent? (h : headEvent? event? catalog name r call = some event) :
    ∃ behaviour c, event? behaviour c = some event := by
  unfold headEvent? at h
  split at h
  case isFalse => cases h
  case isTrue =>
    split at h
    case h_2 => cases h
    case h_1 => exact ⟨_, _, h⟩

/-- A call that succeeds puts down its event, and the history goes on behind it. -/
theorem history_cons (h : r.step catalog call = .ok s) :
    history event? catalog name r (call :: calls) =
      (headEvent? event? catalog name r call).toList ++ history event? catalog name s calls := by
  simp only [history, h]

/-- Whatever is put down was read off some call. -/
theorem exists_of_mem_history (h : event ∈ history event? catalog name r calls) :
    ∃ behaviour c, event? behaviour c = some event := by
  induction calls generalizing r with
  | nil => cases h
  | cons call calls ih =>
    rcases List.mem_append.1 h with hfirst | hrest
    · exact exists_of_headEvent? (Option.mem_toList.1 hfirst)
    · split at hrest
      case h_1 => exact ih hrest
      case h_2 => cases hrest

end

/-! ### What is reported -/

/-- What the call with the given index has reported, in the order of the reports. -/
def findingsOf (r : Replay) (index : Nat) : List Finding :=
  r.reports.filterMap fun report =>
    if report.callIndex = index then some report.finding else none

/-- Before a call of a run is made, nothing has been reported for it. -/
theorem findingsOf_eq_nil (h : (start trace).run catalog calls = .ok s) :
    s.findingsOf calls.length = [] := by
  refine List.filterMap_eq_nil_iff.2 fun report hmem => ?_
  have hlt := callIndex_lt_of_run h report hmem
  have hle := callIndex_le_of_run h
  rw [(start_fresh trace).2.1] at hle
  exact if_neg (by omega)

/-- **What a call of a run reports** is what it finds, and later calls do not add to it. -/
theorem findingsOf_settled (h : (start trace).run catalog calls = .ok s) (hrun : s.aborted = none)
    {reply : Reply} {after : List RecordedCall} {final : Replay}
    (hfinal : (s.settle call function reply).run catalog after = .ok final) :
    final.findingsOf calls.length = reply.effect.findings := by
  have hindex : s.callIndex = calls.length := by
    rw [(running_of_run h hrun).2.1, (start_fresh trace).2.1, Nat.zero_add]
  obtain ⟨later, hreports, hlater⟩ := reports_of_run hfinal
  have hbefore := findingsOf_eq_nil h
  have hafter : later.filterMap (fun report =>
      if report.callIndex = calls.length then some report.finding else none) = [] := by
    refine List.filterMap_eq_nil_iff.2 fun report hmem => ?_
    have hle : s.callIndex + 1 ≤ report.callIndex := hlater report hmem
    exact if_neg (by omega)
  -- The reports before the call, those of the call, and those after it.
  unfold findingsOf at hbefore ⊢
  rw [hreports]
  change (s.reports ++ _ ++ later).filterMap _ = _
  rw [List.filterMap_append, List.filterMap_append, hbefore, hafter, List.nil_append,
    List.append_nil, List.filterMap_map]
  refine (List.filterMap_congr fun finding _ => ?_).trans List.filterMap_some
  exact if_pos hindex

end NativeFlow.Replay
