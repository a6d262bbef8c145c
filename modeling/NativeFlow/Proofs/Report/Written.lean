import NativeFlow.Proofs.Report.Rendering
import NativeFlow.Report.Document

namespace NativeFlow

/-!
# Looking things up in a written report

* `Json.at?`: the part of a value that a path leads to.
* `Json.artifact?`, `Json.result?`, `Json.property?`: the traces, the results and the properties of
  a written report.
* `Finding.WrittenAs`: what is written about a finding, by kind and member by member.
  `Finding.writtenAs_toJson_iff` says that this is no other finding's.
* `TraceReport.WrittenAs`, `Summary.WrittenAs`: what a result says, and what a report says about all
  traces together.
* `ReportDocument.artifact?_toJson` and its like: where the parts of a report are written.
-/

/-! ### Paths -/

namespace Json

/-- A step into a value: to a member of an object, or to an item of an array. -/
inductive Step where
  | member (name : String)
  | item (index : Nat)

/-- The part of a value that a step leads to. -/
def step? : Json → Step → Option Json
  | .object members, .member name => (members.find? (·.1 = name)).map Prod.snd
  | .array items, .item index => items[index]?
  | _, _ => none

/-- The part of a value that a path leads to. -/
def at? (value : Json) (path : List Step) : Option Json := path.foldlM step? value

/-- The trace with an index, as a report lists it. -/
def artifact? (report : Json) (index : Nat) : Option Json :=
  report.at? [.member "runs", .item 0, .member "artifacts", .item index]

/-- The result at a place of a report. -/
def result? (report : Json) (index : Nat) : Option Json :=
  report.at? [.member "runs", .item 0, .member "results", .item index]

/-- A property of the run that a report is about. -/
def property? (report : Json) (name : String) : Option Json :=
  report.at? [.member "runs", .item 0, .member "invocations", .item 0, .member "properties",
    .member name]

/-- What a result says about the place of the trace that it is from. -/
def place? (result : Json) (name : String) : Option Json :=
  result.at? [.member "locations", .item 0, .member "physicalLocation",
    .member "artifactLocation", .member name]

end Json

/-! ### Findings -/

/-- What a written finding says: its kind, and each of its parts under a name of its own. -/
inductive Finding.WrittenAs : Finding → Json → Prop
  | iccEdge {caller : String} {activityName : Option String}
      {extras : List (String × Option Note)} {written : Json}
      (hkind : written.at? [.member "kind"] = some (.string "icc_edge"))
      (hcaller : written.at? [.member "caller"] = some (.string caller))
      (hactivity : written.at? [.member "activity_name"] =
        some (.ofOption .string activityName))
      (hextras : written.at? [.member "extras"] = some (.object (extras.map fun extra =>
        (extra.1, .ofOption Note.toJson extra.2)))) :
    WrittenAs (.iccEdge caller activityName extras) written
  | taintedSink {method : String} {position : Nat} {categories : List String} {written : Json}
      (hkind : written.at? [.member "kind"] = some (.string "tainted_sink"))
      (hmethod : written.at? [.member "method"] = some (.string method))
      (hposition : written.at? [.member "position"] = some (.natural position))
      (hcategories : written.at? [.member "categories"] =
        some (.array (categories.map .string))) :
    WrittenAs (.taintedSink method position categories) written
  | nativeRebind {name signature : String} {className : Option String} {previous current : UInt64}
      {written : Json}
      (hkind : written.at? [.member "kind"] = some (.string "native_rebind"))
      (hname : written.at? [.member "name"] = some (.string name))
      (hsignature : written.at? [.member "signature"] = some (.string signature))
      (hclass : written.at? [.member "class_name"] = some (.ofOption .string className))
      (hprevious : written.at? [.member "previous"] = some (.natural previous.toNat))
      (hcurrent : written.at? [.member "current"] = some (.natural current.toNat)) :
    WrittenAs (.nativeRebind name signature className previous current) written

namespace Finding

/-- `Finding.toJson` writes the kind of a finding and each of its members. -/
theorem writtenAs_toJson (f : Finding) : f.WrittenAs f.toJson := by
  cases f with
  | iccEdge caller activityName extras =>
    refine .iccEdge rfl rfl rfl ?_
    rw [← extrasToJson_eq]
    rfl
  | taintedSink method position categories => exact .taintedSink rfl rfl rfl rfl
  | nativeRebind name signature className previous current =>
    exact .nativeRebind rfl rfl rfl rfl rfl rfl

/-- **No two findings are written alike:** the kind and the members tell them apart. -/
theorem WrittenAs.unique {f g : Finding} {written : Json} (hf : f.WrittenAs written)
    (hg : g.WrittenAs written) : f = g := by
  -- What stands under a name is one value.
  have hsame {path : List Json.Step} {a b : Json} (ha : written.at? path = some a)
      (hb : written.at? path = some b) : a = b := Option.some.inj (ha.symm.trans hb)
  have htext {path : List Json.Step} {a b : String} (ha : written.at? path = some (.string a))
      (hb : written.at? path = some (.string b)) : a = b := Json.string.inj (hsame ha hb)
  cases hf with
  | iccEdge hkind hcaller hactivity hextras =>
    cases hg with
    | iccEdge hkind' hcaller' hactivity' hextras' =>
      have hlists := Json.object.inj (hsame hextras hextras')
      rw [← extrasToJson_eq, ← extrasToJson_eq] at hlists
      rw [htext hcaller hcaller',
        Json.ofOption_string_inj (hsame hactivity hactivity'),
        extrasToJson_inj (fun _ _ n _ _ => Note.toJson_inj) hlists]
    | taintedSink hkind' => exact absurd (htext hkind hkind') (by decide)
    | nativeRebind hkind' => exact absurd (htext hkind hkind') (by decide)
  | taintedSink hkind hmethod hposition hcategories =>
    cases hg with
    | taintedSink hkind' hmethod' hposition' hcategories' =>
      rw [htext hmethod hmethod', Json.natural.inj (hsame hposition hposition'),
        Json.strings_inj (hsame hcategories hcategories')]
    | iccEdge hkind' => exact absurd (htext hkind hkind') (by decide)
    | nativeRebind hkind' => exact absurd (htext hkind hkind') (by decide)
  | nativeRebind hkind hname hsignature hclass hprevious hcurrent =>
    cases hg with
    | nativeRebind hkind' hname' hsignature' hclass' hprevious' hcurrent' =>
      rw [htext hname hname', htext hsignature hsignature',
        Json.ofOption_string_inj (hsame hclass hclass'),
        UInt64.toNat_inj.1 (Json.natural.inj (hsame hprevious hprevious')),
        UInt64.toNat_inj.1 (Json.natural.inj (hsame hcurrent hcurrent'))]
    | iccEdge hkind' => exact absurd (htext hkind hkind') (by decide)
    | taintedSink hkind' => exact absurd (htext hkind hkind') (by decide)

/-- What is written about a finding says its kind and its members, and those of no other. -/
theorem writtenAs_toJson_iff {f g : Finding} : g.WrittenAs f.toJson ↔ g = f := by
  constructor
  · exact fun h => h.unique f.writtenAs_toJson
  · rintro rfl
    exact g.writtenAs_toJson

end Finding

/-! ### Results and summaries -/

/-- What a written result says: its rule and its wording, the trace that it is from by path and by
index, and the call that led to it with the finding. -/
structure TraceReport.WrittenAs (r : TraceReport) (result : Json) : Prop where
  ruleId : result.at? [.member "ruleId"] = some (.string r.ruleId)
  message : result.at? [.member "message", .member "text"] = some (.string r.message)
  uri : result.place? "uri" = some (.string r.uri)
  index : result.place? "index" = some (.natural r.traceIndex)
  callIndex : result.at? [.member "properties", .member "jnitaint.call_index"] =
    some (.natural r.report.callIndex)
  function : result.at? [.member "properties", .member "jnitaint.function"] =
    some (.string r.report.function)
  /-- The finding, which is told by its kind and its members. -/
  finding : ∃ written, result.at? [.member "properties", .member "jnitaint.finding"] =
    some written ∧ written = r.report.finding.toJson ∧
    ∀ finding : Finding, finding.WrittenAs written ↔ finding = r.report.finding

/-- `TraceReport.toJson` writes all that `TraceReport.WrittenAs` asks for. -/
theorem TraceReport.writtenAs_toJson (r : TraceReport) : r.WrittenAs r.toJson where
  ruleId := rfl
  message := rfl
  uri := rfl
  index := rfl
  callIndex := rfl
  function := rfl
  finding := ⟨_, rfl, rfl, fun _ => Finding.writtenAs_toJson_iff⟩

/-- What is written about counts of calls. -/
structure Coverage.WrittenAs (coverage : Coverage) (counts : Json) : Prop where
  modeled : counts.at? [.member "modeled"] = some (.natural coverage.modeled)
  fallback : counts.at? [.member "fallback"] = some (.natural coverage.fallback)
  faults : counts.at? [.member "faults"] = some (.natural coverage.faults)
  perFunction : ∀ name, counts.at? [.member "per_function", .member name] =
    (coverage.perFunction.find? name).map .natural
  fallbackFunctions : ∀ name, counts.at? [.member "fallback_functions", .member name] =
    (coverage.fallbackFunctions.find? name).map .natural

/-- The count of a function is found under its name, and only a function that is listed has one. -/
theorem at?_countsToJson (counts : SortedMap String Nat) (name : String) :
    (countsToJson counts).at? [.member name] = (counts.find? name).map .natural := by
  -- The first member with a name is the first entry with that key.
  have hfind (entries : List (String × Nat)) :
      ((entries.map fun entry => (entry.1, Json.natural entry.2)).find? (·.1 = name)).map Prod.snd =
        (Assoc.find? name entries).map .natural := by
    induction entries with
    | nil => rfl
    | cons entry rest ih =>
      rw [List.map_cons, List.find?_cons, Assoc.find?]
      by_cases hname : entry.1 = name
      · simp [hname]
      · simpa [hname, Ne.symm hname] using ih
  have hpath : (countsToJson counts).at? [.member name] =
      (((counts.entries.map fun entry => (entry.1, Json.natural entry.2)).find?
        (·.1 = name)).map Prod.snd).bind some := rfl
  rw [hpath, Option.bind_fun_some, hfind]
  rfl

/-- `Coverage.toJson` writes each counter under its name. -/
theorem Coverage.writtenAs_toJson (coverage : Coverage) :
    coverage.WrittenAs coverage.toJson where
  modeled := rfl
  fallback := rfl
  faults := rfl
  perFunction := at?_countsToJson coverage.perFunction
  fallbackFunctions := at?_countsToJson coverage.fallbackFunctions

/-- What is written about a registered native method. -/
structure RegisteredNative.WrittenAs (native : RegisteredNative) (written : Json) : Prop where
  trace : written.at? [.member "trace"] = some (.string native.trace)
  name : written.at? [.member "name"] = some (.string native.key.name)
  signature : written.at? [.member "signature"] = some (.string native.key.signature)
  className : written.at? [.member "class_name"] =
    some (.ofOption .string native.binding.className)
  pointer : written.at? [.member "fn_ptr"] = some (.natural native.binding.pointer.toNat)

/-- What a report says about all traces together. -/
structure Summary.WrittenAs (s : Summary) (report : Json) : Prop where
  traceCount : report.property? "jnitaint.trace_count" = some (.natural s.traceCount)
  abortedCount : report.property? "jnitaint.aborted_path_count" =
    some (.natural s.aborted.length)
  nativeCount : report.property? "jnitaint.native_count" = some (.natural s.natives.length)
  natives : ∀ place native, s.natives[place]? = some native → ∃ written,
    (report.property? "jnitaint.natives").bind (·.at? [.item place]) = some written ∧
      native.WrittenAs written
  coverage : ∃ counts, report.property? "jnitaint.coverage" = some counts ∧
    s.coverage.WrittenAs counts

/-! ### The parts of a report -/

namespace ReportDocument

variable (d : ReportDocument) (facts : Option RunFacts)

/-- **Traces** are listed in the order of the command line. -/
theorem artifact?_toJson (index : Nat) :
    (d.toJson facts).artifact? index = d.traces[index]?.map ReplayedTrace.toJson := by
  have hpath : (d.toJson facts).artifact? index =
      (d.traces.map ReplayedTrace.toJson)[index]?.bind some := by
    cases facts <;> rfl
  rw [hpath, Option.bind_fun_some, List.getElem?_map]

/-- **Results** are listed in their order. -/
theorem result?_toJson (index : Nat) :
    (d.toJson facts).result? index = d.results[index]?.map TraceReport.toJson := by
  have hpath : (d.toJson facts).result? index =
      (d.results.map TraceReport.toJson)[index]?.bind some := by
    cases facts <;> rfl
  rw [hpath, Option.bind_fun_some, List.getElem?_map]

/-- The properties of the run are the members of the summary, whether the facts of the run are shown
or not. -/
theorem property?_toJson (name : String) :
    (d.toJson facts).property? name = (d.summary.toJson facts).at? [.member name] := by
  cases facts <;> rfl

/-- **The summary** of a report is written under its properties. -/
theorem writtenAs_summary : d.summary.WrittenAs (d.toJson facts) := by
  constructor
  case traceCount => rw [property?_toJson]; rfl
  case abortedCount => rw [property?_toJson]; rfl
  case nativeCount =>
    rw [property?_toJson, Summary.toJson, Summary.abortedMembers]
    cases d.summary.aborted.isEmpty <;> rfl
  case natives =>
    intro place native hnative
    -- The list is left out only if it is empty.
    have hsome : d.summary.natives.isEmpty = false := by
      rw [List.isEmpty_eq_false_iff]
      exact List.ne_nil_of_mem (List.mem_of_getElem? hnative)
    have hlist : (d.toJson facts).property? "jnitaint.natives" =
        some (.array (d.summary.natives.map fun native => .object
          (("trace", .string native.trace) :: nativeMembers native.key native.binding))) := by
      rw [property?_toJson, Summary.toJson, Summary.abortedMembers, Summary.nativesMembers, hsome]
      cases d.summary.aborted.isEmpty <;> rfl
    refine ⟨.object (("trace", .string native.trace) :: nativeMembers native.key native.binding),
      ?_, ⟨rfl, rfl, rfl, rfl, rfl⟩⟩
    rw [hlist, Option.bind_some]
    change (List.map _ d.summary.natives)[place]?.bind some = _
    rw [Option.bind_fun_some, List.getElem?_map, hnative]
    rfl
  -- Members in front of the counts may be left out, so there are four cases.
  case coverage =>
    refine ⟨d.summary.coverage.toJson, ?_, d.summary.coverage.writtenAs_toJson⟩
    rw [property?_toJson, Summary.toJson, Summary.abortedMembers, Summary.nativesMembers]
    cases d.summary.aborted.isEmpty <;> cases d.summary.natives.isEmpty <;> rfl

end ReportDocument

end NativeFlow
