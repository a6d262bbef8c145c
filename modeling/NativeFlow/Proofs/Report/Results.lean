import NativeFlow.Proofs.ByteOrder
import NativeFlow.Proofs.List
import NativeFlow.Proofs.Report.Written

namespace NativeFlow

/-!
# The results of a report

The reports of all traces are put in the order of their rules and of their wording. None is lost,
those with the same rule and the same wording stay in the order of the traces and of the calls, and
each points at the trace that it is from.

* `TraceReport.key`: what the order goes by.
* `TraceReport.InOrder`, `TraceReport.inOrder_of_le`: the order, by the bytes of the texts.
* `filter_results`: the results with one key.
* `map_key_results`, `map_content_perm`: what becomes of the results when the traces come in another
  order.
* `ReportDocument.results_complete`: nothing is lost, and every result points at its trace.
-/

/-! ### The order -/

/-- The order of keys: by rule, then by wording. -/
def keyOrder : String × String → String × String → Ordering :=
  compareLex (compareOn Prod.fst) (compareOn Prod.snd)

instance : Std.TransCmp keyOrder :=
  inferInstanceAs (Std.TransCmp (compareLex (compareOn Prod.fst) (compareOn Prod.snd)))

/-- Keys that count as equal are equal. -/
theorem eq_of_keyOrder {a b : String × String} (h : keyOrder a b = .eq) : a = b := by
  simp only [keyOrder, compareLex, compareOn, Ordering.then_eq_eq, Std.compare_eq_iff_eq] at h
  exact Prod.ext h.1 h.2

/-- What the order of results goes by: the rule and the wording of a report. -/
def Report.key (report : Report) : String × String :=
  (report.finding.rule.id, report.finding.message)

namespace TraceReport

/-- The rule and the wording of a result. -/
def key (r : TraceReport) : String × String := r.report.key

/-- All of a result but the index of its trace. -/
def content (r : TraceReport) : String × Report := (r.uri, r.report)

/-- One result may stand before another: its rule has the lesser bytes, or it has the same rule and
its wording has the lesser bytes, or both are the same. -/
def InOrder (a b : TraceReport) : Prop :=
  Utf8.encode a.ruleId < Utf8.encode b.ruleId ∨
    a.ruleId = b.ruleId ∧ (Utf8.encode a.message < Utf8.encode b.message ∨ a.message = b.message)

theorem le_eq (a b : TraceReport) : a.le b = (keyOrder a.key b.key).isLE := rfl

/-- The order of results is transitive, for that of their keys is. -/
theorem le_trans (a b c : TraceReport) (hab : a.le b = true) (hbc : b.le c = true) :
    a.le c = true := by
  rw [le_eq] at hab hbc ⊢
  exact Std.TransCmp.isLE_trans hab hbc

/-- Of two results one may stand before the other. -/
theorem le_total (a b : TraceReport) : (a.le b || b.le a) = true := by
  have hswap : keyOrder b.key a.key = (keyOrder a.key b.key).swap := Std.OrientedCmp.eq_swap
  rw [le_eq, le_eq, hswap]
  cases keyOrder a.key b.key <;> rfl

/-- The order of characters is the order of bytes. -/
theorem inOrder_of_le {a b : TraceReport} (h : a.le b = true) : a.InOrder b := by
  unfold le at h
  cases hrule : compare a.ruleId b.ruleId with
  | lt => exact .inl (Utf8.encode_lt_encode hrule)
  | gt => simp [hrule] at h
  | eq =>
    refine .inr ⟨Std.compare_eq_iff_eq.1 hrule, ?_⟩
    cases hmessage : compare a.message b.message with
    | lt => exact .inl (Utf8.encode_lt_encode hmessage)
    | eq => exact .inr (Std.compare_eq_iff_eq.1 hmessage)
    | gt => simp [hrule, hmessage] at h

end TraceReport

/-! ### The reports of all traces -/

/-- A report is listed with the path and the index of a trace that has it. -/
theorem mem_allReports_iff {traces : List ReplayedTrace} {r : TraceReport} :
    r ∈ allReports traces ↔
      ∃ trace, traces[r.traceIndex]? = some trace ∧ trace.uri = r.uri ∧
        r.report ∈ trace.replay.reports := by
  simp only [allReports, List.mem_flatMap, List.mem_zipIdx_iff_getElem?, List.mem_map]
  constructor
  · rintro ⟨⟨trace, index⟩, htrace, report, hreport, rfl⟩
    exact ⟨trace, htrace, rfl, hreport⟩
  · rintro ⟨trace, htrace, huri, hreport⟩
    exact ⟨(trace, r.traceIndex), htrace, r.report, hreport, by rw [huri]⟩

/-- Without the indices, the reports of all traces are those of one trace after another. -/
theorem map_content_allReports (traces : List ReplayedTrace) :
    (allReports traces).map TraceReport.content =
      traces.flatMap fun trace => trace.replay.reports.map fun report => (trace.uri, report) := by
  have hindex : traces.zipIdx.map Prod.fst = traces := List.zipIdx_map_fst 0 traces
  calc (allReports traces).map TraceReport.content
      = traces.zipIdx.flatMap fun entry =>
          entry.1.replay.reports.map fun report => (entry.1.uri, report) := by
        simp [allReports, List.map_flatMap, TraceReport.content, Function.comp_def]
    _ = (traces.zipIdx.map Prod.fst).flatMap fun trace =>
          trace.replay.reports.map fun report => (trace.uri, report) := by
        rw [List.flatMap_map]
    _ = _ := by rw [hindex]

/-- The reports with one key, trace by trace. -/
theorem filter_allReports (key : String × String) (traces : List ReplayedTrace) :
    (allReports traces).filter (·.key = key) =
      traces.zipIdx.flatMap fun entry =>
        (entry.1.replay.reports.filter (·.key = key)).map fun report =>
          ⟨entry.1.uri, entry.2, report⟩ := by
  simp only [allReports, List.filter_flatMap, List.filter_map]
  rfl

/-! ### Results -/

variable {traces traces' : List ReplayedTrace}

/-- `results` is a permutation of `allReports`. -/
theorem results_perm (traces : List ReplayedTrace) : (results traces).Perm (allReports traces) :=
  List.mergeSort_perm _ _

/-- `results` is in order. -/
theorem pairwise_le_results (traces : List ReplayedTrace) :
    (results traces).Pairwise fun a b => a.le b = true :=
  List.pairwise_mergeSort TraceReport.le_trans TraceReport.le_total _

/-- **Ties.** The results with one rule and one wording come in the order of the traces, and in the
order of the reports of each trace. -/
theorem filter_results (key : String × String) (traces : List ReplayedTrace) :
    (results traces).filter (·.key = key) =
      traces.zipIdx.flatMap fun entry =>
        (entry.1.replay.reports.filter (·.key = key)).map fun report =>
          ⟨entry.1.uri, entry.2, report⟩ := by
  rw [← filter_allReports]
  refine filter_mergeSort TraceReport.le_trans TraceReport.le_total (fun a b ha hb => ?_) _
  -- Two results with one key may stand in either order, so the sort leaves them as they are.
  have hself : keyOrder key key = .eq := Std.ReflCmp.compare_self
  rw [TraceReport.le_eq, of_decide_eq_true ha, of_decide_eq_true hb, hself]
  rfl

/-! ### Traces in another order -/

/-- The results of traces in another order are the same, up to their order and the indices of the
traces. -/
theorem map_content_perm (h : traces'.Perm traces) :
    ((results traces').map TraceReport.content).Perm
      ((results traces).map TraceReport.content) := by
  have hall : ((allReports traces').map TraceReport.content).Perm
      ((allReports traces).map TraceReport.content) := by
    rw [map_content_allReports, map_content_allReports]
    exact h.flatMap_right _
  exact ((results_perm traces').map _).trans (hall.trans ((results_perm traces).map _).symm)

/-- The keys of the results are in order, so they are the same for traces in another order. -/
theorem map_key_results (h : traces'.Perm traces) :
    (results traces').map TraceReport.key = (results traces).map TraceReport.key := by
  have hsorted (traces : List ReplayedTrace) :
      ((results traces).map TraceReport.key).Pairwise fun a b => (keyOrder a b).isLE = true :=
    List.pairwise_map.2 (pairwise_le_results traces)
  have hperm : ((results traces').map TraceReport.key).Perm
      ((results traces).map TraceReport.key) := by
    have hcontent := (map_content_perm h).map fun content => content.2.key
    rwa [List.map_map, List.map_map] at hcontent
  -- Two sorted lists with the same elements are equal, for keys that count as equal are.
  refine List.Perm.eq_of_pairwise (fun a b _ _ hab hba => ?_) (hsorted traces') (hsorted traces)
    hperm
  exact eq_of_keyOrder (Std.OrientedCmp.isLE_antisymm hab hba)

/-- The results with one key are the same for traces in another order, up to their order and the
indices of the traces. -/
theorem map_content_filter_perm (h : traces'.Perm traces) (key : String × String) :
    (((results traces').filter (·.key = key)).map TraceReport.content).Perm
      (((results traces).filter (·.key = key)).map TraceReport.content) := by
  have hfilter := (map_content_perm h).filter fun content => decide (content.2.key = key)
  rwa [List.filter_map, List.filter_map] at hfilter

/-! ### Reports -/

/-- **A report loses nothing, and its results point at their traces.** For any traces that were
replayed,

* the results are a permutation of all reports of all traces;
* they are in the order of the bytes of their rules, and for one rule in the order of the bytes of
  their wording;
* those with one rule and one wording come in the order of the traces, and in the order of the
  reports of each trace;
* each result names the path and the index of a trace that has its report. In the written report,
  the result is found at its place with its index, its path, its call, its function and its finding,
  and behind the index stands a trace with the same path;
* for the same traces in another order, the results have the same rules and the same wording at
  every place, and those with one rule and one wording are the same up to their order and their
  indices. -/
theorem ReportDocument.results_complete (traces : List ReplayedTrace) (catalogEntries : Nat)
    (facts : Option RunFacts) :
    let document := ReportDocument.ofTraces traces catalogEntries
    (document.results.map (·.report)).Perm (traces.flatMap (·.replay.reports)) ∧
    document.results.Pairwise TraceReport.InOrder ∧
    (∀ key, document.results.filter (·.key = key) =
      traces.zipIdx.flatMap fun entry =>
        (entry.1.replay.reports.filter (·.key = key)).map fun report =>
          ⟨entry.1.uri, entry.2, report⟩) ∧
    (∀ place result, document.results[place]? = some result →
      ∃ trace written artifact, traces[result.traceIndex]? = some trace ∧
        trace.uri = result.uri ∧ result.report ∈ trace.replay.reports ∧
        (document.toJson facts).result? place = some written ∧ result.WrittenAs written ∧
        (document.toJson facts).artifact? result.traceIndex = some artifact ∧
        artifact.at? [.member "location", .member "uri"] = written.place? "uri") ∧
    ∀ traces', traces'.Perm traces →
      let document' := ReportDocument.ofTraces traces' catalogEntries
      document'.results.map TraceReport.key = document.results.map TraceReport.key ∧
      ∀ key, ((document'.results.filter (·.key = key)).map TraceReport.content).Perm
        ((document.results.filter (·.key = key)).map TraceReport.content) := by
  intro document
  refine ⟨?_, ?_, fun key => filter_results key traces, fun place result hresult => ?_,
    fun traces' h => ⟨map_key_results h, map_content_filter_perm h⟩⟩
  · have hreports := ((results_perm traces).map TraceReport.content).map Prod.snd
    rw [map_content_allReports, List.map_map, List.map_flatMap] at hreports
    simp only [List.map_map, Function.comp_def, List.map_id'] at hreports
    exact hreports
  · exact (pairwise_le_results traces).imp TraceReport.inOrder_of_le
  · have hmem : result ∈ allReports traces :=
      (results_perm traces).mem_iff.1 (List.mem_of_getElem? hresult)
    obtain ⟨trace, htrace, huri, hreport⟩ := mem_allReports_iff.1 hmem
    refine ⟨trace, result.toJson, trace.toJson, htrace, huri, hreport, ?_,
      result.writtenAs_toJson, ?_, ?_⟩
    · rw [result?_toJson, hresult]
      rfl
    · rw [artifact?_toJson]
      exact congrArg (Option.map _) htrace
    · rw [result.writtenAs_toJson.uri, ← huri]
      rfl

namespace ReportDocument

/-- A trace with the given reports. -/
def reporting (uri : String) (reports : List Report) : ReplayedTrace where
  uri := uri
  length := 2
  replay := { machine := { pointerBits := 64 }, reports }

/-- A tainted argument was passed on. -/
def passedOn : Report := ⟨0, "CallVoidMethod", .taintedSink "LLog;.put:(I)V" 0 ["PIN"]⟩

/-- A native method was bound to another function. -/
def rebound : Report := ⟨1, "RegisterNatives", .nativeRebind "run" "()V" none 4096 8192⟩

/-- Two traces that have a report in common. -/
def shared : List ReplayedTrace :=
  [reporting "first.json" [passedOn, rebound], reporting "second.json" [passedOn]]

/-- The results of `shared`: by rule first, and for one report in the order of the traces. -/
theorem results_shared :
    (ofTraces shared 0).results =
      [⟨"first.json", 0, rebound⟩, ⟨"first.json", 0, passedOn⟩, ⟨"second.json", 1, passedOn⟩] := by
  have hrules : TraceReport.le ⟨"first.json", 0, passedOn⟩ ⟨"first.json", 0, rebound⟩ = false := by
    decide
  have hfirst : TraceReport.le ⟨"first.json", 0, rebound⟩ ⟨"second.json", 1, passedOn⟩ = true := by
    decide
  have hties : TraceReport.le ⟨"first.json", 0, passedOn⟩ ⟨"second.json", 1, passedOn⟩ = true := by
    decide
  simp [ofTraces, NativeFlow.results, allReports, shared, reporting, List.mergeSort,
    List.MergeSort.Internal.splitInTwo, hrules, hfirst, hties]

/-- The report that both traces have is listed for each of them, also when the traces change
places. -/
theorem results_complete_shared :
    let document := ofTraces shared 0
    let document' := ofTraces shared.reverse 0
    document.results =
      [⟨"first.json", 0, rebound⟩, ⟨"first.json", 0, passedOn⟩, ⟨"second.json", 1, passedOn⟩] ∧
    (∃ written artifact,
      (document.toJson none).result? 2 = some written ∧
      written.place? "index" = some (.natural 1) ∧
      (document.toJson none).artifact? 1 = some artifact ∧
      artifact.at? [.member "location", .member "uri"] = written.place? "uri") ∧
    shared.reverse.Perm shared ∧
    document'.results.map TraceReport.key = document.results.map TraceReport.key := by
  intro document document'
  have hreverse : shared.reverse.Perm shared := List.reverse_perm shared
  obtain ⟨-, -, -, hplaces, horders⟩ := results_complete shared 0 none
  obtain ⟨-, written, artifact, -, -, -, hwritten, has, hartifact, huri⟩ :=
    hplaces 2 ⟨"second.json", 1, passedOn⟩ (by rw [results_shared]; rfl)
  exact ⟨results_shared, ⟨written, artifact, hwritten, has.index, hartifact, huri⟩, hreverse,
    (horders shared.reverse hreverse).1⟩

end ReportDocument

end NativeFlow
