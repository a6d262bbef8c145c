import NativeFlow.Report.Rendering
import NativeFlow.Report.Summary

namespace NativeFlow

/-!
# Report documents

* `ReportDocument`: what a report holds: the traces, the ordered results and the summary.
* `ReportDocument.toJson`: the report in the static analysis results interchange format, version
  2.1.0.
-/

/-- The facts about the run that made a report. -/
structure RunFacts where
  arguments : List String
  milliseconds : Nat

/-- What a report holds. -/
structure ReportDocument where
  traces : List ReplayedTrace
  results : List TraceReport
  summary : Summary

/-- The report on some replays. -/
def ReportDocument.ofTraces (traces : List ReplayedTrace) (catalogEntries : Nat) :
    ReportDocument where
  traces := traces
  results := NativeFlow.results traces
  summary := .ofTraces traces catalogEntries

/-- The name of the tool in reports. -/
def toolName : String := "jnitaint"

/-- The version of the tool in reports. -/
def toolVersion : String := "0.1.0"

/-- The schema of the format. -/
def schemaUri : String :=
  "https://schemastore.azurewebsites.net/schemas/json/sarif-2.1.0.json"

/-- The name of a property of this tool. -/
def property (name : String) : String := toolName ++ "." ++ name

/-- A text as the format writes it. -/
def textObject (text : String) : Json := .object [("text", .string text)]

/-- The description of a rule. -/
def Rule.toJson (rule : Rule) : Json :=
  .object [
    ("id", .string rule.id),
    ("name", .string rule.title),
    ("shortDescription", textObject rule.description)]

/-- The description of the tool. -/
def toolToJson : Json :=
  .object [("driver", .object [
    ("name", .string toolName),
    ("version", .string toolVersion),
    ("rules", .array (Rule.all.map Rule.toJson))])]

/-- A trace file. -/
def ReplayedTrace.toJson (trace : ReplayedTrace) : Json :=
  .object [
    ("location", .object [("uri", .string trace.uri)]),
    ("length", .natural trace.length)]

/-- A result. -/
def TraceReport.toJson (r : TraceReport) : Json :=
  .object [
    ("ruleId", .string r.ruleId),
    ("message", textObject r.message),
    ("locations", .array [.object [
      ("logicalLocations", .array [.object [
        ("name", .string r.report.finding.location),
        ("kind", .string "function")]]),
      ("physicalLocation", .object [
        ("artifactLocation", .object [
          ("uri", .string r.uri),
          ("index", .natural r.traceIndex)])])]]),
    ("properties", .object [
      (property "call_index", .natural r.report.callIndex),
      (property "finding", r.report.finding.toJson),
      (property "function", .string r.report.function)])]

namespace Summary

/-- The list of traces that were not replayed to their end, unless there is none. -/
def abortedMembers (s : Summary) : List (String × Json) :=
  if s.aborted.isEmpty then []
  else [(property "aborted_paths", .array (s.aborted.map fun path => .object [
    ("trace", .string path.trace),
    ("call_index", .natural path.abort.callIndex),
    ("fault", .string path.abort.fault.message)]))]

/-- The list of registered native methods, unless there is none. -/
def nativesMembers (s : Summary) : List (String × Json) :=
  if s.natives.isEmpty then []
  else [(property "natives", .array (s.natives.map fun native =>
    .object (("trace", .string native.trace) :: nativeMembers native.key native.binding)))]

/-- The properties of a run. -/
def toJson (s : Summary) (facts : Option RunFacts) : Json :=
  -- Counts are always there; the lists they count only if they are not empty.
  .object (
    [(property "trace_count", .natural s.traceCount),
      (property "aborted_path_count", .natural s.aborted.length)] ++
    s.abortedMembers ++
    [(property "native_count", .natural s.natives.length)] ++
    s.nativesMembers ++
    [(property "catalog_entries", .natural s.catalogEntries),
      (property "coverage", s.coverage.toJson)] ++
    (facts.map fun facts => (property "replay_ms", .natural facts.milliseconds)).toList)

end Summary

/-- The report as JSON; the facts about the run are left out where they are not given. -/
def ReportDocument.toJson (document : ReportDocument) (facts : Option RunFacts) : Json :=
  let commandLine := match facts with
    | some facts => [
        ("arguments", Json.strings facts.arguments),
        ("commandLine", .string (" ".intercalate facts.arguments))]
    | none => []
  .object [
    ("$schema", .string schemaUri),
    ("version", .string "2.1.0"),
    ("runs", .array [.object [
      ("tool", toolToJson),
      ("artifacts", .array (document.traces.map ReplayedTrace.toJson)),
      ("invocations", .array [.object (commandLine ++ [
        ("executionSuccessful", .bool true),
        ("properties", document.summary.toJson facts)])]),
      ("results", .array (document.results.map TraceReport.toJson))]])]

/-- The text of a report, which ends in a line break. -/
def ReportDocument.text (document : ReportDocument) (facts : Option RunFacts) : String :=
  (document.toJson facts).pretty ++ "\n"

end NativeFlow
