import NativeFlow.Proofs.Findings
import NativeFlow.Proofs.Similar.Run

namespace NativeFlow

/-!
# Taint aside, the catalog decides nothing

A catalog says which methods hand out sensitive data and which must not be given any. Under two
catalogs the same trace leads to the same values, methods and counts, once all taint is taken out of
them, and to the same reports, apart from those of sinks.

* `Note.untainted`, `Value.untainted`: a note or a value without taint, at every depth.
* `Note.Similar.untainted`: similar notes are the same without taint.
* `Finding.untainted?`, `Report.untainted?`: a finding without taint. Without taint, a sink has
  nothing to report.
* `Call.Similar.findings`: similar calls report the same without taint.
* `Trace.replay_untainted`: the same for whole replays.
-/

/-! ### Without taint -/

mutual

/-- A note without taint, at every depth. -/
def Note.untainted : Note → Note
  | .classIdentity ⟨className, ⟨rows⟩⟩ => .classIdentity ⟨className, ⟨untaintedRows rows⟩⟩
  | .object ⟨source, javaType, ⟨rows⟩, _, icc⟩ =>
    .object ⟨source, javaType, ⟨untaintedRows rows⟩, .clean, untaintedState icc⟩
  | .string literal => .string literal
  | .method identity => .method identity
  | .field identity => .field identity
  | .primitive ⟨source, javaType, _⟩ => .primitive ⟨source, javaType, .clean⟩

/-- Field values without taint. -/
def untaintedRows : List (FieldKey × Note) → List (FieldKey × Note)
  | [] => []
  | (key, value) :: rest => (key, value.untainted) :: untaintedRows rest

/-- Inter-component state without taint. -/
def untaintedState : Option (IccState Note) → Option (IccState Note)
  | none => none
  | some ⟨isIcc, activityName, extras⟩ => some ⟨isIcc, activityName, untaintedExtras extras⟩

/-- Extras without taint. -/
def untaintedExtras : List (String × Option Note) → List (String × Option Note)
  | [] => []
  | (key, none) :: rest => (key, none) :: untaintedExtras rest
  | (key, some value) :: rest => (key, some value.untainted) :: untaintedExtras rest

end

/-- A value without taint. -/
def Value.untainted (v : Value) : Value := { v with notes := v.notes.map Note.untainted }

/-- A finding without taint; that of a sink is nothing but taint. -/
def Finding.untainted? : Finding → Option Finding
  | .iccEdge caller activityName extras =>
    some (.iccEdge caller activityName (untaintedExtras extras))
  | .taintedSink _ _ _ => none
  | .nativeRebind name signature className previous current =>
    some (.nativeRebind name signature className previous current)

/-- A report without taint. -/
def Report.untainted? (report : Report) : Option Report :=
  report.finding.untainted?.map fun finding => { report with finding }

/-- Rows are stripped of taint one by one. -/
theorem untaintedRows_eq_map (rows : List (FieldKey × Note)) :
    untaintedRows rows = rows.map fun row => (row.1, row.2.untainted) := by
  induction rows with
  | nil => rfl
  | cons row rest ih => rw [untaintedRows, ih, List.map_cons]

/-- So are extras, where they have a value. -/
theorem untaintedExtras_eq_map (extras : List (String × Option Note)) :
    untaintedExtras extras = extras.map fun extra => (extra.1, extra.2.map Note.untainted) := by
  induction extras with
  | nil => rfl
  | cons extra rest ih =>
    obtain ⟨key, value?⟩ := extra
    cases value? with
    | none => rw [untaintedExtras, ih, List.map_cons, Option.map_none]
    | some value => rw [untaintedExtras, ih, List.map_cons, Option.map_some]

/-! ### Similar notes -/

variable {R : Taint → Taint → Prop}

/-- A note is similar to itself, if taint is related to itself. -/
theorem Note.Similar.refl (hR : ∀ t, R t t) (n : Note) : Note.Similar R n n := by
  -- Induction on the levels of a note: the notes in its rows and extras come first.
  induction n using Note.induction_levels with
  | level n hrows hextras =>
    cases n with
    | classIdentity k =>
      obtain ⟨className, ⟨rows⟩⟩ := k
      have hsame : List.Forall₂ (SameKey (Note.Similar R)) rows rows :=
        List.forall₂_same.2 fun row hrow => .mk row.1 (hrows row hrow)
      exact .classIdentity (.mk className hsame)
    | object o =>
      obtain ⟨source, javaType, ⟨rows⟩, taint, icc⟩ := o
      have hsame : List.Forall₂ (SameKey (Note.Similar R)) rows rows :=
        List.forall₂_same.2 fun row hrow => .mk row.1 (hrows row hrow)
      have hstate : Option.Rel (IccState.Similar (Note.Similar R)) icc icc := by
        cases icc with
        | none => exact .none
        | some icc =>
          obtain ⟨isIcc, activityName, extras⟩ := icc
          refine .some (.mk isIcc activityName (List.forall₂_same.2 ?_))
          rintro ⟨key, value?⟩ hextra
          cases value? with
          | none => exact .mk key .none
          | some value => exact .mk key (.some (hextras _ hextra value rfl))
      exact .object (.mk source javaType hsame (hR taint) hstate)
    | string literal => exact .string literal
    | method identity => exact .method identity
    | field identity => exact .field identity
    | primitive p => exact .primitive (.mk p.source p.javaType (hR p.taint))

/-- Similar rows are the same without taint, if this is so for their notes. -/
theorem untaintedRows_of_similar {rows rows' : List (FieldKey × Note)}
    (h : List.Forall₂ (SameKey (Note.Similar R)) rows rows')
    (hvalue : ∀ row ∈ rows, ∀ n', Note.Similar R row.2 n' → row.2.untainted = n'.untainted) :
    untaintedRows rows = untaintedRows rows' := by
  rw [untaintedRows_eq_map, untaintedRows_eq_map]
  refine map_eq_of_forall₂ h ?_
  rintro _ hrow _ ⟨key, hn⟩
  rw [hvalue _ hrow _ hn]

/-- Similar extras are the same without taint, if this is so for their notes. -/
theorem untaintedExtras_of_similar {extras extras' : List (String × Option Note)}
    (h : List.Forall₂ (SameKey (Option.Rel (Note.Similar R))) extras extras')
    (hvalue : ∀ extra ∈ extras, ∀ n, extra.2 = some n →
      ∀ n', Note.Similar R n n' → n.untainted = n'.untainted) :
    untaintedExtras extras = untaintedExtras extras' := by
  rw [untaintedExtras_eq_map, untaintedExtras_eq_map]
  refine map_eq_of_forall₂ h ?_
  rintro _ hextra _ ⟨key, hvalues⟩
  cases hvalues with
  | none => rfl
  | some hn => rw [Option.map_some, Option.map_some, hvalue _ hextra _ rfl _ hn]

/-- **Similar notes are the same without taint.** -/
theorem Note.Similar.untainted {n n' : Note} (h : Note.Similar R n n') :
    n.untainted = n'.untainted := by
  induction n using Note.induction_levels generalizing n' with
  | level n hrows hextras =>
    cases h with
    | classIdentity h =>
      obtain ⟨className, hsame⟩ := h
      rw [Note.untainted, Note.untainted,
        untaintedRows_of_similar hsame fun row hrow n' => hrows row hrow]
    -- The taint of an object is the one thing that may differ, and it is dropped.
    | object h =>
      obtain @⟨source, javaType, rows, rows', _, _, icc, icc', hsame, -, hicc⟩ := h
      have hstate : untaintedState icc = untaintedState icc' := by
        cases hicc with
        | none => rfl
        | some hicc =>
          obtain ⟨isIcc, activityName, hextra⟩ := hicc
          rw [untaintedState, untaintedState,
            untaintedExtras_of_similar hextra fun extra hmem n hn n' => hextras extra hmem n hn]
      rw [Note.untainted, Note.untainted,
        untaintedRows_of_similar hsame fun row hrow n' => hrows row hrow, hstate]
    | primitive h =>
      obtain ⟨source, javaType, -⟩ := h
      rfl
    | _ => rfl

/-- Similar values are the same without taint. -/
theorem Value.Similar.untainted {v v' : Value} (h : Value.Similar R v v') :
    v.untainted = v'.untainted := by
  have hnotes : v.notes.map Note.untainted = v'.notes.map Note.untainted :=
    map_eq_of_forall₂ h.notes fun n _ n' hn => hn.untainted
  rw [Value.untainted, Value.untainted, h.handle, h.bits, hnotes]

/-! ### Reports -/

/-- Without taint, nothing is left of what a sink reports. -/
theorem Invocation.untainted_sinkFindings (i : Invocation) :
    i.sinkFindings.filterMap Finding.untainted? = [] := by
  refine List.filterMap_eq_nil_iff.2 fun f hf => ?_
  obtain ⟨_, _, _, _, _, -, -, -, -, rfl⟩ := mem_sinkFindings_iff.1 hf
  rfl

/-- Edges that are reported by similar calls have similar extras. -/
theorem Invocation.Similar.observed_findings {i i' : Invocation} (h : Invocation.Similar R i i') :
    i.observed.findings.filterMap Finding.untainted? =
      i'.observed.findings.filterMap Finding.untainted? := by
  -- Both calls look at the state of their first argument, and these are similar.
  have hstate : Option.Rel (IccState.Similar (Note.Similar R)) (i.arguments.head?.bind Value.icc?)
      (i'.arguments.head?.bind Value.icc?) := by
    refine rel_bind (fun v v' hv => rel_bind ?_ hv.object?) (rel_head? h.arguments)
    rintro _ _ ⟨_, _, _, _, hicc⟩
    exact hicc
  rw [Invocation.observed_findings, Invocation.observed_findings, h.method]
  split
  case isFalse => rfl
  case isTrue =>
    generalize i.arguments.head?.bind Value.icc? = icc? at hstate
    generalize i'.arguments.head?.bind Value.icc? = icc?' at hstate
    cases hstate with
    | none => rfl
    | some hicc =>
      obtain ⟨isIcc, activityName, hextras⟩ := hicc
      have hsame := untaintedExtras_of_similar hextras fun _ _ n _ n' hn => hn.untainted
      simp [Invocation.edge, Finding.untainted?, h.method, hsame]

/-- **What similar calls report** is the same without taint. -/
theorem Call.Similar.findings {c c' : Call} (h : Call.Similar R c c') (behaviour : Behaviour) :
    (behaviour.effect c).findings.filterMap Finding.untainted? =
      (behaviour.effect c').findings.filterMap Finding.untainted? := by
  cases hreports : behaviour.reports with
  | false =>
    rw [Behaviour.findings_eq_nil hreports, Behaviour.findings_eq_nil hreports]
  | true =>
    -- Registrations do not look at taint, and a method call reports edges and sinks.
    cases behaviour with
    | registerNatives =>
      rw [Behaviour.effect, Behaviour.effect, h.registerNatives_eq]
    | invoke returns binding passing =>
      have hmethod := h.arg?_bind (fun _ _ hv => Value.Similar.method? hv) binding.methodIndex
      simp only [Behaviour.effect, Call.invoke, Call.invocation?, hmethod]
      cases (c'.arg? binding.methodIndex).bind Value.method? with
      | none => rfl
      | some method =>
        have hsimilar : Invocation.Similar R ⟨method, binding, c.args, c.catalog⟩
            ⟨method, binding, c'.args, c'.catalog⟩ := ⟨rfl, rfl, h.args⟩
        simp only [Option.map_some, List.filterMap_append, Invocation.untainted_sinkFindings,
          hsimilar.observed_findings]
    | _ => cases hreports

/-! ### Whole replays -/

/-- The relation that holds of all taint. -/
theorem Taint.trivial_relation : TaintRelation fun _ _ => True where
  refl _ := trivial
  absorb _ _ := trivial

namespace Replay

/-- States that are the same without taint. -/
structure SameUntainted (r r' : Replay) : Prop where
  similar : Replay.Similar (fun _ _ => True) r r'
  reports : r.reports.filterMap Report.untainted? = r'.reports.filterMap Report.untainted?

namespace SameUntainted

variable {r r' : Replay}

/-- A state is the same as itself. -/
theorem refl (r : Replay) : r.SameUntainted r := by
  have hvalue : ∀ v : Value, Value.Similar (fun _ _ => True) v v := fun v =>
    ⟨rfl, rfl, List.forall₂_same.2 fun n _ => .refl (fun _ => trivial) n⟩
  exact ⟨⟨rfl, fun name => rel_self hvalue _, rfl, rfl, rfl, rfl, rfl⟩, rfl⟩

/-- States that are the same without taint stay so when the same call is settled in both. -/
theorem settle (h : r.SameUntainted r') (catalog catalog' : Catalog) (call : RecordedCall)
    (function : Function) {args args' : List Value}
    (hargs : List.Forall₂ (Value.Similar fun _ _ => True) args args') :
    (r.settle call function (r.reply catalog function args)).SameUntainted
      (r'.settle call function (r'.reply catalog' function args')) := by
  have hcatalog : Catalog.Similar (fun _ _ => True) catalog catalog' :=
    fun _ _ _ _ _ => trivial
  have hview := h.similar.view hcatalog hargs
  have hreply := Taint.trivial_relation.reply_similar hview function.behaviour
  refine ⟨h.similar.settle call function hreply, ?_⟩
  -- A report without taint is the finding without taint, with the same call and function.
  have hadded : ∀ findings : List Finding,
      (findings.map fun finding => Report.mk r.callIndex function.name finding).filterMap
          Report.untainted? =
        (findings.filterMap Finding.untainted?).map fun finding =>
          Report.mk r.callIndex function.name finding := by
    intro findings
    rw [List.filterMap_map, List.map_filterMap]
    rfl
  have hfindings := hview.findings function.behaviour
  rw [← Behaviour.reply_effect, ← Behaviour.reply_effect] at hfindings
  simp only [Replay.settle, List.filterMap_append, h.reports, ← h.similar.callIndex, hadded, reply,
    hfindings]

/-- **One call** under two catalogs. It fails with the same error, or the states stay the same
without taint. -/
theorem step (h : r.SameUntainted r') (catalog catalog' : Catalog) (call : RecordedCall) :
    Agree SameUntainted (r.step catalog call) (r'.step catalog' call) := by
  refine step_agree call h.similar.aborted h.similar.traceIndex h.similar.argument h ?_ ?_
  · intro function fault
    exact ⟨h.similar.abort function fault, h.reports⟩
  · intro function args args' _ _ hargs
    exact h.settle catalog catalog' call function hargs

end SameUntainted

end Replay

/-- **The catalog influences only taint.** Under any two catalogs, the replays of a trace fail with
the same error, or both succeed. Then they end in the same way, and the same names are bound to
values that are the same without taint, at every depth; the same native methods are registered; as
many calls were covered by the model, and as many were not, for each function; and the reports are
the same without taint, in the same order, where those of sinks are left out. -/
theorem Trace.replay_untainted (trace : Trace) (catalog catalog' : Catalog) :
    Agree (fun r r' =>
        r.aborted = r'.aborted ∧
        (∀ name, (r.bindings.find? name).map Value.untainted =
          (r'.bindings.find? name).map Value.untainted) ∧
        r.natives = r'.natives ∧
        r.coverage = r'.coverage ∧
        r.reports.filterMap Report.untainted? = r'.reports.filterMap Report.untainted?)
      (trace.replay catalog) (trace.replay catalog') := by
  rw [Trace.replay_eq_run, Trace.replay_eq_run]
  split
  case isFalse => exact .error _
  case isTrue =>
    have hruns : Agree Replay.SameUntainted ((Replay.start trace).run catalog trace.calls)
        ((Replay.start trace).run catalog' trace.calls) :=
      Replay.run_agree (fun _ _ call h => h.step catalog catalog' call) (.refl _) _
    refine hruns.imp fun r r' h => ⟨h.similar.aborted, fun name => ?_, h.similar.natives,
      h.similar.coverage, h.reports⟩
    exact eq_of_rel (rel_map (fun _ _ hv => hv.untainted) (h.similar.bindings name))

end NativeFlow
