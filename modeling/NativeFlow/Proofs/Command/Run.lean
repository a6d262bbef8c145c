import Mathlib.Data.List.Perm.Basic
import NativeFlow.Command.Run
import NativeFlow.Proofs.Command.Options
import NativeFlow.Proofs.Document.Reading
import NativeFlow.Proofs.List
import NativeFlow.Proofs.Report.Totals
import NativeFlow.Proofs.Utf8

namespace NativeFlow

/-!
# Runs are all or nothing

A run makes a report if every trace can be replayed, and otherwise it makes none. So a report is
about all traces of the command line, and what it counts is the sum over all of them.

* `FileSystem.LoadsCatalog`, `FileSystem.Replays`: what has to be found in the files for a run, step
  by step.
* `report_eq_ok_iff`: which runs make a report, and which report they make.
* `report_perm`: the traces in another order.
* `run_all_or_nothing`: all traces or none, and the totals of a report.
-/

/-! ### Files -/

/-- The catalog of a run is in the file that is named. Without one it is empty. -/
inductive FileSystem.LoadsCatalog (files : FileSystem) : Option String → Catalog → Prop
  | unnamed : files.LoadsCatalog none {}
  | named {path : String} {bytes : List UInt8} {catalog : Catalog}
    (hfile : files.state path = .file bytes) (hcatalog : Catalog.ofBytes bytes = .ok catalog) :
    files.LoadsCatalog (some path) catalog

/-- A trace can be read, its text is that of a trace, and the trace is replayed without an error. It
need not be replayed to its end. -/
inductive FileSystem.Replays (files : FileSystem) (catalog : Catalog) (path : String) :
    ReplayedTrace → Prop
  | intro {bytes : List UInt8} {text : String} {trace : Trace} {replay : Replay}
    (hfile : files.state path = .file bytes) (htext : Utf8.decode? bytes = some text)
    (htrace : Trace.ofText text = .ok trace) (hreplay : trace.replay catalog = .ok replay) :
    files.Replays catalog path { uri := path, length := bytes.length, replay }

variable {files : FileSystem} {options : Options} {catalog : Catalog} {path : String}
  {path? : Option String} {paths traces : List String} {replayed : ReplayedTrace}
  {document : ReportDocument}

/-- The check for missing traces lets a run go on if there are none. -/
theorem checkTraces_eq_ok_iff :
    checkTraces files paths = .ok () ↔ ∀ path ∈ paths, (files.state path).exists = true := by
  unfold checkTraces
  cases hfind : paths.find? fun path => !(files.state path).exists with
  | none => simpa using hfind
  | some path =>
    have hmissing : (files.state path).exists = false := by simpa using List.find?_some hfind
    refine ⟨fun h => (by cases h), fun h => ?_⟩
    rw [h path (List.mem_of_find?_eq_some hfind)] at hmissing
    cases hmissing

/-- `LoadsCatalog` says when a catalog is loaded, and which one. -/
theorem loadCatalog_eq_ok_iff :
    loadCatalog files path? = .ok catalog ↔ files.LoadsCatalog path? catalog := by
  constructor
  · intro h
    unfold loadCatalog at h
    split at h
    case h_1 =>
      cases h
      exact .unnamed
    case h_2 path =>
      split at h
      case h_1 | h_2 => cases h
      case h_3 bytes hfile =>
        split at h
        case h_1 => cases h
        case h_2 hcatalog =>
          cases h
          exact .named hfile hcatalog
  · intro h
    cases h with
    | unnamed => rfl
    | named hfile hcatalog => simp only [loadCatalog, hfile, hcatalog]

/-- `Replays` says when the trace in a file is replayed, and with which result. -/
theorem replayFile_eq_ok_iff :
    replayFile files catalog path = .ok replayed ↔ files.Replays catalog path replayed := by
  constructor
  · intro h
    unfold replayFile at h
    -- Four things may go wrong in turn: the file, its text, its trace and the replay.
    split at h
    case h_1 | h_2 => cases h
    case h_3 bytes hfile =>
      split at h
      case h_1 => cases h
      case h_2 text htext =>
        split at h
        case h_1 => cases h
        case h_2 trace htrace =>
          split at h
          case h_1 => cases h
          case h_2 replay hreplay =>
            cases h
            exact .intro hfile htext htrace hreplay
  · intro h
    cases h with
    | intro hfile htext htrace hreplay => simp only [replayFile, hfile, htext, htrace, hreplay]

namespace FileSystem.Replays

/-- A replayed trace is named by its file. -/
theorem uri (h : files.Replays catalog path replayed) : replayed.uri = path := by
  cases h
  rfl

/-- Only a call that ended the replay has failed. -/
theorem faults (h : files.Replays catalog path replayed) :
    replayed.replay.coverage.faults = if replayed.replay.aborted.isSome then 1 else 0 := by
  cases h with
  | intro hfile htext htrace hreplay =>
    rw [Trace.replay_eq_run] at hreplay
    split at hreplay
    case isTrue => exact (Replay.accounts_of_run hreplay).faults
    case isFalse => cases hreplay

end FileSystem.Replays

/-- The replayed traces are named by the files, in their order. -/
theorem map_uri_of_replays {traces : List ReplayedTrace}
    (h : List.Forall₂ (files.Replays catalog) paths traces) : traces.map (·.uri) = paths := by
  induction h with
  | nil => rfl
  | cons htrace _ ih => rw [List.map_cons, htrace.uri, ih]

/-- In none of the replayed traces did another call fail than the one that ended it. -/
theorem faults_of_replays {traces : List ReplayedTrace}
    (h : List.Forall₂ (files.Replays catalog) paths traces) :
    ∀ trace ∈ traces,
      trace.replay.coverage.faults = if trace.replay.aborted.isSome then 1 else 0 := by
  induction h with
  | nil => exact fun _ hmem => absurd hmem List.not_mem_nil
  | cons htrace _ ih => exact List.forall_mem_cons.2 ⟨htrace.faults, ih⟩

/-! ### Reports -/

/-- **Which report is made.** It needs every trace, and it is about all of them in their order. -/
theorem report_eq_ok_iff :
    report files options = .ok document ↔
      (∀ path ∈ options.traces, (files.state path).exists = true) ∧
      ∃ catalog replayed, files.LoadsCatalog options.catalog catalog ∧
        List.Forall₂ (files.Replays catalog) options.traces replayed ∧
        .ofTraces replayed catalog.size = document := by
  -- Three stages: all traces are there, the catalog is loaded, and the traces are replayed.
  change Except.bind _ (fun _ => Except.bind _ fun (catalog : Catalog) =>
    Except.bind _ fun replayed => .ok (ReportDocument.ofTraces replayed catalog.size)) = _ ↔ _
  simp only [bind_eq_ok_iff, mapM_eq_ok_iff, loadCatalog_eq_ok_iff, replayFile_eq_ok_iff]
  constructor
  · rintro ⟨⟨⟩, hcheck, catalog, hcatalog, replayed, hreplayed, hdocument⟩
    exact ⟨checkTraces_eq_ok_iff.1 hcheck, catalog, replayed, hcatalog, hreplayed,
      Except.ok.inj hdocument⟩
  · rintro ⟨hexists, catalog, replayed, hcatalog, hreplayed, rfl⟩
    exact ⟨(), checkTraces_eq_ok_iff.2 hexists, catalog, hcatalog, replayed, hreplayed, rfl⟩

/-- The file for the report does not decide what is in the report. -/
theorem run_eq_report
    (hcreate : ∀ path, options.outputFile? = some path → files.create path = .ok ()) :
    run files options = report files options := by
  change Except.bind _ _ = _
  cases report files options with
  | error error => rfl
  | ok document =>
    -- The file is created after the report has been made, and nothing is read from it.
    cases houtput : options.outputFile? with
    | none => rfl
    | some path => simp only [Except.bind, hcreate path houtput]; rfl

/-- **Traces in another order** make a report with the same counts. -/
theorem report_perm (h : report files options = .ok document) (hperm : traces.Perm options.traces) :
    ∃ document', report files { options with traces } = .ok document' ∧
      document'.summary.coverage = document.summary.coverage := by
  obtain ⟨hexists, catalog, replayed, hcatalog, hreplayed, rfl⟩ := report_eq_ok_iff.1 h
  -- Each trace is replayed on its own, so the results can be put in the new order.
  obtain ⟨replayed', hreplayed', hperm'⟩ := List.perm_comp_forall₂ hperm hreplayed
  refine ⟨.ofTraces replayed' catalog.size, report_eq_ok_iff.2 ⟨fun path hpath => ?_, catalog,
    replayed', hcatalog, hreplayed', rfl⟩, Summary.coverage_perm _ hperm'⟩
  exact hexists path (hperm.mem_iff.1 hpath)

/-- **Runs are all or nothing.** Let a command line be accepted, and let the file for the report be
one that can be made. Then

* the run makes a report if and only if every trace exists, the catalog can be loaded, and every
  trace can be read and replayed, be it to its end or not;
* otherwise the run fails.

In the report,

* the traces of the command line are listed in their order, each with what its replay came to;
* the number of traces that were not replayed to their end is the number of failed calls;
* the number of native methods is the sum over the traces, and the methods of each trace are listed
  in the order of their names;
* every counter is the sum of that counter over the traces, and the traces in any other order have
  the same counters. -/
theorem run_all_or_nothing {arguments : List String}
    (harguments : Options.ofArguments arguments = .ok options)
    (hcreate : ∀ path, options.outputFile? = some path → files.create path = .ok ()) :
    let paths := ValueOption.trace.values arguments
    let replayable := (∀ path ∈ paths, (files.state path).exists = true) ∧
      ∃ catalog, files.LoadsCatalog (ValueOption.catalog.values arguments).head? catalog ∧
        ∀ path ∈ paths, ∃ replayed, files.Replays catalog path replayed
    paths ≠ [] ∧
    ((∃ document, run files options = .ok document) ↔ replayable) ∧
    (¬replayable → ∃ error, run files options = .error error) ∧
    ∀ document facts, run files options = .ok document →
      let summary := document.summary
      let written := document.toJson facts
      (∃ catalog, files.LoadsCatalog (ValueOption.catalog.values arguments).head? catalog ∧
        List.Forall₂ (files.Replays catalog) paths document.traces) ∧
      (∀ place, (written.artifact? place).bind (·.at? [.member "location", .member "uri"]) =
        paths[place]?.map .string) ∧
      summary.WrittenAs written ∧
      summary.aborted.length = document.traces.countP (·.replay.aborted.isSome) ∧
      summary.coverage.faults = summary.aborted.length ∧
      summary.natives.length = (document.traces.map (·.replay.natives.size)).sum ∧
      (∃ lists, summary.natives = lists.flatten ∧
        List.Forall₂ ReplayedTrace.ListsNatives document.traces lists) ∧
      summary.coverage.IsSum (document.traces.map (·.replay.coverage)) ∧
      ∀ traces, traces.Perm paths → ∃ document',
        run files { options with traces } = .ok document' ∧
          document'.summary.coverage = summary.coverage := by
  intro paths replayable
  have htraces : options.traces = paths := Options.given_ofArguments harguments .trace
  have hcatalog : options.catalog = (ValueOption.catalog.values arguments).head? := by
    rw [← Options.given_ofArguments harguments .catalog]
    cases hcatalog : options.catalog <;> simp [Options.given, hcatalog]
  have hiff : (∃ document, run files options = .ok document) ↔ replayable := by
    simp only [run_eq_report hcreate, report_eq_ok_iff, htraces, hcatalog]
    constructor
    · rintro ⟨document, hexists, catalog, replayed, hloads, hreplayed, -⟩
      exact ⟨hexists, catalog, hloads, exists_forall₂_iff.1 ⟨replayed, hreplayed⟩⟩
    · rintro ⟨hexists, catalog, hloads, hreplayed⟩
      obtain ⟨replayed, hreplayed⟩ := exists_forall₂_iff.2 hreplayed
      exact ⟨_, hexists, catalog, replayed, hloads, hreplayed, rfl⟩
  -- What is left is that a run that does not make a report fails, and what is in a report.
  refine ⟨htraces ▸ (Options.read_of_ofArguments harguments).2, hiff, fun hnot => ?_,
    fun document facts hrun => ?_⟩
  · cases hrun : run files options with
    | error error => exact ⟨error, rfl⟩
    | ok document => exact absurd (hiff.1 ⟨document, hrun⟩) hnot
  · rw [run_eq_report hcreate] at hrun
    obtain ⟨-, catalog, replayed, hloads, hreplayed, hdocument⟩ := report_eq_ok_iff.1 hrun
    rw [htraces] at hreplayed
    rw [hcatalog] at hloads
    intro summary written
    -- Other orders of the traces go to the same file, so only the report has to be looked at.
    have hperm (traces : List String) (hperm : traces.Perm paths) : ∃ document',
        run files { options with traces } = .ok document' ∧
          document'.summary.coverage = summary.coverage := by
      have hsame : run files { options with traces } = report files { options with traces } :=
        run_eq_report hcreate
      rw [hsame]
      exact report_perm hrun (htraces ▸ hperm)
    subst hdocument
    refine ⟨⟨catalog, hloads, hreplayed⟩, fun place => ?_, ReportDocument.writtenAs_summary _ facts,
      Summary.length_aborted _ _,
      Summary.faults_eq_length_aborted _ _ (faults_of_replays hreplayed),
      Summary.length_natives _ _, ⟨_, rfl, ?_⟩, Summary.isSum_coverage _ _, hperm⟩
    · rw [ReportDocument.artifact?_toJson, ← map_uri_of_replays hreplayed, List.getElem?_map]
      change (replayed[place]?.map _).bind _ = _
      cases replayed[place]? <;> rfl
    · exact List.forall₂_map_right_iff.2 (List.forall₂_same.2 fun trace _ => trace.listsNatives)

/-! ### A run with two traces -/

/-- A trace that is written as text is read back. -/
theorem Trace.ofText_pretty (trace : Trace) : ofText trace.toJson.pretty = .ok trace := by
  have hdocument := document_toJson trace
  obtain ⟨spelling, hspelled, hwrite⟩ := Json.appends_of_kept hdocument.kept (some 0) ""
  have hpretty : trace.toJson.pretty.toList = [] ++ (spelling ++ []) := by
    rw [List.append_nil]
    exact hwrite
  rw [ofText, hpretty, document_of_spelled hdocument (by simp [Json.Blank]) hspelled]
  rfl

/-- A trace that registers a native method. -/
def Trace.registersOne : Trace where
  memory := [⟨4096, .text "run"⟩, ⟨4160, .text "()V"⟩, ⟨4224, .words [4096, 4160, 8192]⟩]
  inputs := [⟨"class", .classObject "Worker"⟩]
  calls := [⟨.function "RegisterNatives", [.reference "class", .address 4224, .literal 1], none⟩]

/-- A trace whose second call goes to a reserved slot. -/
def Trace.endsEarly : Trace where
  calls := [⟨.function "GetVersion", [], none⟩, ⟨.slot 2, [], none⟩]

/-- The bytes of the text of a trace. -/
def Trace.bytes (trace : Trace) : List UInt8 := Utf8.encode trace.toJson.pretty

/-- A directory with both traces. -/
def FileSystem.twoFiles : FileSystem :=
  .ofFiles [("first.json", Trace.registersOne.bytes), ("second.json", Trace.endsEarly.bytes)]

/-- A file with the text of a trace is replayed if the trace is. -/
theorem FileSystem.Replays.of_bytes {trace : Trace} {replay : Replay}
    (hfile : files.state path = .file trace.bytes) (hreplay : trace.replay catalog = .ok replay) :
    files.Replays catalog path { uri := path, length := trace.bytes.length, replay } :=
  .intro hfile (Utf8.decode?_encode _) trace.ofText_pretty hreplay

/-- A command line with both traces. -/
def bothTraces : List String :=
  ["--trace", "first.json", "--output=report.json", "--trace=second.json"]

open FileSystem in
set_option maxRecDepth 20000 in
/-- The trace that ends early counts as one, and both orders of the traces are reported on. With a
trace that is not there nothing is reported. -/
theorem run_all_or_nothing_bothTraces :
    let options : Options :=
      { traces := ["first.json", "second.json"], output := some "report.json" }
    Options.ofArguments bothTraces = .ok options ∧
    (∃ document, run twoFiles options = .ok document ∧
      (document.toJson none).property? "jnitaint.aborted_path_count" = some (.natural 1) ∧
      (document.toJson none).property? "jnitaint.native_count" = some (.natural 1) ∧
      document.summary.coverage.faults = 1 ∧
      document.summary.coverage.perFunction.count "RegisterNatives" = 1 ∧
      ∃ document', run twoFiles { options with traces := ["second.json", "first.json"] } =
        .ok document' ∧ document'.summary.coverage = document.summary.coverage) ∧
    ∃ error, run twoFiles { traces := ["first.json", "third.json"] } = .error error := by
  intro options
  have harguments : Options.ofArguments bothTraces = .ok options := rfl
  have hcreate : ∀ path, options.outputFile? = some path → twoFiles.create path = .ok () := by
    rintro path ⟨⟩
    rfl
  -- What the replays of the two traces come to is computed; all else is from the theorem.
  obtain ⟨first, hfirst, hfirstEnd, hfirstNatives, hfirstCalls⟩ :
      ∃ r, Trace.registersOne.replay {} = .ok r ∧ r.aborted = none ∧ r.natives.size = 1 ∧
        r.coverage.perFunction.count "RegisterNatives" = 1 := ⟨_, rfl, rfl, rfl, rfl⟩
  obtain ⟨second, hsecond, hsecondEnd, hsecondNatives, hsecondCalls⟩ :
      ∃ r, Trace.endsEarly.replay {} = .ok r ∧ r.aborted = some ⟨1, .reservedSlot 2⟩ ∧
        r.natives.size = 0 ∧ r.coverage.perFunction.count "RegisterNatives" = 0 :=
    ⟨_, rfl, rfl, rfl, rfl⟩
  have hreplayed : List.Forall₂ (twoFiles.Replays {}) options.traces
      [⟨"first.json", Trace.registersOne.bytes.length, first⟩,
        ⟨"second.json", Trace.endsEarly.bytes.length, second⟩] :=
    .cons (.of_bytes rfl hfirst) (.cons (.of_bytes rfl hsecond) .nil)
  have hexists : ∀ path ∈ options.traces, (twoFiles.state path).exists = true :=
    List.forall_mem_cons.2 ⟨rfl, List.forall_mem_singleton.2 rfl⟩
  obtain ⟨document, hrun, htraces⟩ : ∃ document, run twoFiles options = .ok document ∧
      document.traces = [⟨"first.json", Trace.registersOne.bytes.length, first⟩,
        ⟨"second.json", Trace.endsEarly.bytes.length, second⟩] :=
    ⟨_, (run_eq_report hcreate).trans
      (report_eq_ok_iff.2 ⟨hexists, {}, _, .unnamed, hreplayed, rfl⟩), rfl⟩
  obtain ⟨-, -, -, htotals⟩ := run_all_or_nothing harguments hcreate
  obtain ⟨-, -, hwritten, haborted, hfaults, hnatives, -, hsum, hperm⟩ := htotals document none hrun
  have hcount : document.summary.aborted.length = 1 := by
    rw [haborted, htraces]
    simp [hfirstEnd, hsecondEnd]
  refine ⟨harguments, ⟨document, hrun, ?_, ?_, hfaults.trans hcount, ?_, ?_⟩, ?_⟩
  · rw [hwritten.abortedCount, hcount]
  · rw [hwritten.nativeCount, hnatives, htraces]
    simp [hfirstNatives, hsecondNatives]
  · rw [hsum.perFunction, htraces]
    simp [hfirstCalls, hsecondCalls]
  · exact hperm ["second.json", "first.json"] (.swap _ _ _)
  -- The third file is not there.
  · have hother : Options.ofArguments ["--trace=first.json", "--trace=third.json"] =
        .ok { traces := ["first.json", "third.json"] } := rfl
    obtain ⟨-, -, hfails, -⟩ := run_all_or_nothing hother fun path hpath => by cases hpath
    refine hfails fun hreplayable => ?_
    have hthird := hreplayable.1 "third.json" (.tail _ (.head _))
    cases hthird

end NativeFlow
