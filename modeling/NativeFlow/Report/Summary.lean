import NativeFlow.Replay.Basic

namespace NativeFlow

/-!
# Summary of several replays

* `ReplayedTrace`: a trace file and what its replay came to.
* `results`: the reports of all traces, ordered by rule and wording. Equal ones stay in the order
  of the traces and of the calls.
* `Summary.ofTraces`: what is counted and collected over all traces.
-/

/-- A trace file and what its replay came to. -/
structure ReplayedTrace where
  uri : String
  /-- The size of the file in bytes. -/
  length : Nat
  replay : Replay

/-- A report with the trace it comes from. -/
structure TraceReport where
  uri : String
  /-- The position of the trace among all traces. -/
  traceIndex : Nat
  report : Report

namespace TraceReport

/-- The identifier of the rule that a report falls under. -/
def ruleId (r : TraceReport) : String := r.report.finding.rule.id

/-- The wording of a report. -/
def message (r : TraceReport) : String := r.report.finding.message

/-- Whether one report may stand before another: by rule, then by wording. -/
def le (a b : TraceReport) : Bool :=
  ((compare a.ruleId b.ruleId).then (compare a.message b.message)).isLE

end TraceReport

/-- The reports of all traces, trace by trace. -/
def allReports (traces : List ReplayedTrace) : List TraceReport :=
  traces.zipIdx.flatMap fun (trace, traceIndex) =>
    trace.replay.reports.map fun report => { uri := trace.uri, traceIndex, report }

/-- The reports of all traces in the order in which they are listed. -/
def results (traces : List ReplayedTrace) : List TraceReport :=
  -- The sort is stable, so equal reports keep the order of traces and calls.
  (allReports traces).mergeSort TraceReport.le

/-- A native method that was registered at the end of a trace. -/
structure RegisteredNative where
  trace : String
  key : NativeKey
  binding : NativeBinding

/-- A trace that was not replayed to its end. -/
structure AbortedPath where
  trace : String
  abort : Abort

/-- What is counted and collected over all traces. -/
structure Summary where
  traceCount : Nat
  aborted : List AbortedPath
  natives : List RegisteredNative
  catalogEntries : Nat
  coverage : Coverage

/-- The summary of some replays. -/
def Summary.ofTraces (traces : List ReplayedTrace) (catalogEntries : Nat) : Summary where
  traceCount := traces.length
  aborted := traces.filterMap fun trace =>
    trace.replay.aborted.map fun abort => { trace := trace.uri, abort }
  natives := traces.flatMap fun trace =>
    trace.replay.natives.bindings.entries.map fun (key, binding) =>
      { trace := trace.uri, key, binding }
  catalogEntries := catalogEntries
  coverage := (traces.map (·.replay.coverage)).foldl Coverage.merge {}

end NativeFlow
