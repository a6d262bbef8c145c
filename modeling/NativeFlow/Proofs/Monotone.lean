import NativeFlow.Proofs.Findings
import NativeFlow.Proofs.Similar.Run

namespace NativeFlow

/-!
# More taint in, more taint out

Raising the taint of inputs, and listing more sources or wider sinks, loses nothing: what was
tainted is tainted still, at every position inside every value, and what a sink reported it reports
still.

* `Taint.Below`: the relation of taint that is kept. It compares flags only, for categories and
  origins may well differ.
* `Catalog.Below`: a catalog that lists what another one lists, and maybe more.
* `Catalog.Below.similar`: under such catalogs the results of similar method calls are related.
* `Invocation.Similar.sinkFindings`: the sinks that are reported are reported still.
* `Trace.replay_monotone`: the same for whole replays.
-/

/-! ### Flags -/

/-- What is tainted stays tainted. -/
def Taint.Below (t t' : Taint) : Prop := t.isTainted = true → t'.isTainted = true

namespace Taint

/-- Every record is below a tainted one. -/
theorem below_tainted (t : Taint) (origin : Origin) (categories : SortedSet String) :
    t.Below (.tainted origin categories) := fun _ => rfl

/-- A clean record is below every record. -/
theorem clean_below (t : Taint) : clean.Below t := by
  intro h
  cases h

/-- `Taint.Below` is kept by joins: a join is tainted as soon as one of its sides is. -/
theorem below_relation : TaintRelation Below where
  refl t := fun h => h
  absorb := by
    intro t t' s s' ht hs h
    rw [isTainted_absorb, Bool.or_eq_true] at h ⊢
    exact h.imp ht hs

/-- The first tainted record of a list, where there is one, stays behind a tainted one. -/
theorem find?_below {ts ts' : List Taint} (h : List.Forall₂ Below ts ts') :
    ((ts.find? isTainted).getD .clean).Below ((ts'.find? isTainted).getD .clean) := by
  induction h with
  | nil => exact clean_below _
  | @cons t t' ts ts' ht _ ih =>
    -- The second list may have its first tainted record earlier, never later.
    by_cases ht' : t'.isTainted = true
    · intro _
      simp [ht']
    · have hclean : ¬ t.isTainted = true := fun h => ht' (ht h)
      rw [List.find?_cons_of_neg hclean, List.find?_cons_of_neg ht']
      exact ih

end Taint

/-! ### Results of method calls -/

/-- A catalog that lists every source of another, and every sink with the positions it watches. -/
structure Catalog.Below (catalog catalog' : Catalog) : Prop where
  source : ∀ signature categories, catalog.classify signature = some (.source categories) →
    ∃ categories', catalog'.classify signature = some (.source categories')
  sink : ∀ signature selector, catalog.classify signature = some (.sink selector) →
    ∃ selector', catalog'.classify signature = some (.sink selector') ∧
      ∀ position, selector.selects position = true → selector'.selects position = true

/-- `FieldTable.firstTainted?` of similar tables, with clean taint where no row is tainted. -/
theorem firstTainted?_below {rows rows' : List (FieldKey × Note)}
    (h : List.Forall₂ (SameKey (Note.Similar Taint.Below)) rows rows') :
    ((FieldTable.mk rows).firstTainted?.getD .clean).Below
      ((FieldTable.mk rows').firstTainted?.getD .clean) := by
  refine Taint.find?_below (List.rel_filterMap ?_ h)
  rintro _ _ ⟨_, hvalue⟩
  exact hvalue.taint?

namespace Invocation.Similar

variable {i i' : Invocation}

/-- A receiver that was tainted is tainted still; and where its fields had to be asked, one of them
is tainted still, if the receiver itself is not. -/
theorem inheritedTaint (h : Invocation.Similar Taint.Below i i') :
    i.inheritedTaint.Below i'.inheritedTaint := by
  have hhead := rel_head? h.args
  unfold Invocation.inheritedTaint Invocation.receiver?
  rw [h.binding]
  generalize i.args.head? = head? at hhead
  generalize i'.args.head? = head?' at hhead
  cases hhead with
  | none =>
    cases i'.binding.hasReceiver <;> exact Taint.clean_below _
  | @some v v' hv =>
    cases i'.binding.hasReceiver with
    | false =>
      have hclass := hv.class?
      simp only [Bool.false_eq_true, if_false, Option.bind_some, Option.bind_none]
      generalize v.class? = class? at hclass
      generalize v'.class? = class?' at hclass
      cases hclass with
      | none => exact Taint.clean_below _
      | some hclass =>
        obtain ⟨_, hrows⟩ := hclass
        exact firstTainted?_below hrows
    | true =>
      have hobject := hv.object?
      simp only [if_true, Option.bind_some]
      generalize v.object? = object? at hobject
      generalize v'.object? = object?' at hobject
      cases hobject with
      | none => exact Taint.clean_below _
      | some hobject =>
        obtain @⟨_, _, rows, rows', t, t', _, _, hrows, htaint, _⟩ := hobject
        -- A receiver that is tainted in the second run decides at once; a clean one was clean in
        -- the first run too, and both runs look at the fields.
        cases t' with
        | tainted origin categories => exact Taint.below_tainted _ origin categories
        | clean =>
          cases t with
          | tainted origin categories => exact absurd (htaint rfl) (by decide)
          | clean => exact firstTainted?_below hrows

/-- The taint that a result inherits in one run is below its taint in the other, for a source is
tainted anyway. -/
theorem inheritedTaint_below_resultTaint (h : Invocation.Similar Taint.Below i i') :
    i.inheritedTaint.Below i'.resultTaint := by
  unfold Invocation.resultTaint
  split
  case h_1 categories _ => exact Taint.below_tainted _ .api categories
  case h_2 => exact h.inheritedTaint

/-- **Results.** Under catalogs that list more, the taint of a result is above what it was. -/
theorem resultTaint (h : Invocation.Similar Taint.Below i i')
    (hcatalog : i.catalog.Below i'.catalog) : i.resultTaint.Below i'.resultTaint := by
  cases hclass : i.classification? with
  | none =>
    -- The method may well be a source in the second catalog.
    have heq : i.resultTaint = i.inheritedTaint := by simp only [Invocation.resultTaint, hclass]
    rw [heq]
    exact h.inheritedTaint_below_resultTaint
  | some classification =>
    cases classification with
    | sink selector =>
      have heq : i.resultTaint = i.inheritedTaint := by simp only [Invocation.resultTaint, hclass]
      rw [heq]
      exact h.inheritedTaint_below_resultTaint
    | source categories =>
      obtain ⟨categories', hsource⟩ := hcatalog.source _ categories hclass
      have hclass' : i'.classification? = some (.source categories') := by
        rw [h.method] at hsource
        exact hsource
      simp only [Invocation.resultTaint, hclass']
      exact Taint.below_tainted _ .api categories'

/-! ### Sinks -/

/-- What a sink can watch: the receiver and the arguments of the method, position by position. -/
theorem watched {R : Taint → Taint → Prop} (h : Invocation.Similar R i i') :
    List.Forall₂ (Value.Similar R) i.watched i'.watched :=
  List.rel_append (rel_toList h.receiver?) h.arguments

/-- **Sinks.** What a sink reports at a position it reports there still. -/
theorem sinkFindings (h : Invocation.Similar Taint.Below i i')
    (hcatalog : i.catalog.Below i'.catalog) {method : String} {position : Nat}
    {categories : List String} (hmem : .taintedSink method position categories ∈ i.sinkFindings) :
    ∃ categories', .taintedSink method position categories' ∈ i'.sinkFindings := by
  obtain ⟨selector, position', v, origin, cs, hsink, hget, htaint, hselects, heq⟩ :=
    Invocation.mem_sinkFindings_iff.1 hmem
  cases heq
  -- The same method is a sink that watches the position ...
  obtain ⟨selector', hsink', hwider⟩ := hcatalog.sink _ selector hsink
  rw [h.method] at hsink' ⊢
  -- ... and the value there is tainted.
  obtain ⟨v', hget', hv⟩ := some_of_rel (rel_getElem? h.watched position) hget
  obtain ⟨t', htaint', hbelow⟩ := some_of_rel hv.taint? htaint
  obtain ⟨origin', cs', rfl⟩ : ∃ origin' cs', t' = .tainted origin' cs' := by
    cases t' with
    | clean => exact absurd (hbelow rfl) (by decide)
    | tainted origin' cs' => exact ⟨origin', cs', rfl⟩
  exact ⟨cs'.toList, Invocation.mem_sinkFindings_iff.2
    ⟨selector', position, v', origin', cs', hsink', hget', htaint', hwider position hselects, rfl⟩⟩

end Invocation.Similar

/-- A catalog that lists more is similar to one that lists less, in the sense that runs are compared
by. -/
theorem Catalog.Below.similar {catalog catalog' : Catalog} (h : catalog.Below catalog') :
    Catalog.Similar Taint.Below catalog catalog' := by
  rintro i i' rfl rfl hi
  exact hi.resultTaint h

/-! ### One call -/

/-- The tainted value at a position of a method's arguments, as a sink reported it during a call. -/
def Replay.SinkReported (r : Replay) (callIndex : Nat) (method : String) (position : Nat) : Prop :=
  ∃ report ∈ r.reports, report.callIndex = callIndex ∧
    ∃ categories, report.finding = .taintedSink method position categories

/-- **What a call reports.** A sink that is reported by a call is reported by a similar one. -/
theorem Call.Similar.sink_mem_findings {c c' : Call} (h : Call.Similar Taint.Below c c')
    (hcatalog : c.catalog.Below c'.catalog) {behaviour : Behaviour} {method : String}
    {position : Nat} {categories : List String}
    (hmem : .taintedSink method position categories ∈ (behaviour.effect c).findings) :
    ∃ categories', .taintedSink method position categories' ∈ (behaviour.effect c').findings := by
  rcases Behaviour.findings_cases hmem with ⟨returns, binding, passing, i, rfl, hi, hreport⟩ | hrule
  case inr => cases hrule
  case inl =>
    obtain ⟨m, hm, rfl⟩ := Option.map_eq_some_iff.1 hi
    -- The other call goes through the same method.
    have hi' : c'.invocation? binding = some ⟨m, binding, c'.args, c'.catalog⟩ := by
      rw [h.arg?_bind (fun _ _ hv => hv.method?) binding.methodIndex] at hm
      unfold Call.invocation?
      rw [hm]
      rfl
    rcases List.mem_append.1 hreport with hedge | hsink
    · -- A started activity is reported under another rule.
      obtain ⟨v, icc, -, -, -, heq⟩ := Invocation.mem_observed_findings_iff.1 hedge
      cases heq
    · have hsimilar : Invocation.Similar Taint.Below ⟨m, binding, c.args, c.catalog⟩
          ⟨m, binding, c'.args, c'.catalog⟩ := ⟨rfl, rfl, h.args⟩
      obtain ⟨categories', hsink'⟩ := hsimilar.sinkFindings hcatalog hsink
      refine ⟨categories', ?_⟩
      simp only [Behaviour.effect, Call.invoke, hi']
      exact List.mem_append_right _ hsink'

/-- States in which the second run has lost nothing. -/
structure Replay.Raised (r r' : Replay) : Prop where
  similar : Replay.Similar Taint.Below r r'
  sinks : ∀ callIndex method position, r.SinkReported callIndex method position →
    r'.SinkReported callIndex method position

namespace Replay.Raised

variable {r r' : Replay}

/-- Settling a call loses nothing: values by `Replay.Similar.settle`, reports by
`Call.Similar.sink_mem_findings`. -/
theorem settle (h : Replay.Raised r r') {catalog catalog' : Catalog}
    (hcatalog : catalog.Below catalog') (call : RecordedCall) (function : Function)
    {args args' : List Value} (hargs : List.Forall₂ (Value.Similar Taint.Below) args args') :
    Replay.Raised (r.settle call function (r.reply catalog function args))
      (r'.settle call function (r'.reply catalog' function args')) := by
  have hview := h.similar.view hcatalog.similar hargs
  refine ⟨h.similar.settle call function (Taint.below_relation.reply_similar hview _), ?_⟩
  rintro callIndex method position ⟨report, hmem, hindex, categories, hfinding⟩
  -- The report was there before the call, or the call has just made it.
  rcases List.mem_append.1 hmem with hold | hnew
  · obtain ⟨report', hold', hreport'⟩ := h.sinks callIndex method position
      ⟨report, hold, hindex, categories, hfinding⟩
    exact ⟨report', List.mem_append_left _ hold', hreport'⟩
  · obtain ⟨finding, hfound, rfl⟩ := List.mem_map.1 hnew
    obtain rfl : finding = .taintedSink method position categories := hfinding
    rw [Replay.reply, Behaviour.reply_effect] at hfound
    obtain ⟨categories', hfound'⟩ := hview.sink_mem_findings hcatalog hfound
    refine ⟨⟨r'.callIndex, function.name, .taintedSink method position categories'⟩, ?_, ?_⟩
    · refine List.mem_append_right _ (List.mem_map.2 ⟨_, ?_, rfl⟩)
      rw [Replay.reply, Behaviour.reply_effect]
      exact hfound'
    · exact ⟨h.similar.callIndex ▸ hindex, categories', rfl⟩

/-- **One call** loses nothing, and fails in both states with the same error or in neither. -/
theorem step (h : Replay.Raised r r') {catalog catalog' : Catalog}
    (hcatalog : catalog.Below catalog') (call : RecordedCall) :
    Agree Replay.Raised (r.step catalog call) (r'.step catalog' call) := by
  refine step_agree call h.similar.aborted h.similar.traceIndex h.similar.argument h ?_ ?_
  · intro function fault
    exact ⟨h.similar.abort function fault, h.sinks⟩
  · intro function args args' _ _ hargs
    exact h.settle hcatalog call function hargs

end Replay.Raised

/-! ### Whole replays -/

/-- An input that is the same as another, or that is tainted where the other is not. -/
inductive InputValue.Raised : InputValue → InputValue → Prop
  | same (value : InputValue) : Raised value value
  | object (javaType : String) (categories categories' : List String) :
    Raised (.object javaType false categories) (.object javaType true categories')
  | primitive (javaType : String) (categories categories' : List String) :
    Raised (.primitive javaType false categories) (.primitive javaType true categories')

/-- Traces that differ only in that the second has tainted inputs where the first has none. -/
structure Trace.Raised (trace trace' : Trace) : Prop where
  pointerBits : trace.pointerBits = trace'.pointerBits
  memory : trace.memory = trace'.memory
  inputs : List.Forall₂
    (fun input input' => input.name = input'.name ∧ input.value.Raised input'.value)
    trace.inputs trace'.inputs
  calls : trace.calls = trace'.calls

namespace InputValue.Raised

variable {value value' : InputValue}

/-- Taint has no influence on the width of a value, so inputs get the same handles. -/
theorem bits (h : value.Raised value') (pointerBits : Nat) :
    value.bits pointerBits = value'.bits pointerBits := by
  cases h <;> rfl

/-- The notes of a raised input are similar to those of the input. -/
theorem notes (h : value.Raised value') :
    List.Forall₂ (Note.Similar Taint.Below) value.notes value'.notes := by
  have hfresh := Taint.below_relation.ofType .argument
  -- An object differs from one of which only the type is known in its taint alone.
  have hobject : ∀ javaType {t t' : Taint}, t.Below t' → Note.Similar Taint.Below
      (.object { ObjectIdentity.ofType .argument javaType with taint := t })
      (.object { ObjectIdentity.ofType .argument javaType with taint := t' }) := by
    intro javaType t t' ht
    cases hfresh javaType with
    | mk _ _ hrows _ hicc => exact .object (.mk _ _ hrows ht hicc)
  cases h with
  | object javaType categories categories' =>
    exact .cons (hobject javaType (Taint.clean_below _)) .nil
  | primitive javaType categories categories' =>
    exact .cons (.primitive (.mk _ _ (Taint.clean_below _))) .nil
  | same =>
    cases value with
    | object javaType tainted categories =>
      exact .cons (hobject javaType (Taint.below_relation.refl _)) .nil
    | classObject className => exact .cons (.classIdentity (.mk className .nil)) .nil
    | string value => exact .cons (.object (hfresh _)) (.cons (.string _) .nil)
    | primitive javaType tainted categories =>
      exact .cons (.primitive (.mk _ _ (Taint.below_relation.refl _))) .nil

end InputValue.Raised

/-- Nothing is lost before the first call: the inputs are added one by one, each under its name. -/
theorem Replay.raised_start {trace trace' : Trace} (h : trace.Raised trace') :
    Replay.Raised (Replay.start trace) (Replay.start trace') := by
  have hsimilar : Replay.Similar Taint.Below (Replay.start trace) (Replay.start trace') := by
    unfold Replay.start
    rw [h.pointerBits, h.memory]
    refine List.rel_foldl ?_ ?_ h.inputs
    · rintro r r' hr input input' ⟨hname, hvalue⟩
      exact hr.addInput hname hvalue.bits hvalue.notes
    · exact ⟨rfl, fun _ => .none, rfl, rfl, rfl, rfl, rfl⟩
  refine ⟨hsimilar, ?_⟩
  -- No call has been made yet, so there is nothing to report.
  rintro callIndex method position ⟨report, hmem, _⟩
  rw [(Replay.start_fresh trace).1] at hmem
  exact absurd hmem List.not_mem_nil

/-- A position inside a value, at which a note records taint. -/
def Value.TaintedAt (v : Value) (index : Nat) (path : List Note.Step) : Prop :=
  ∃ n m t, v.notes[index]? = some n ∧ n.at? path = some m ∧ m.taint? = some t ∧
    t.isTainted = true

/-- A position that is tainted in a value is tainted in any value above it. -/
theorem Value.Similar.taintedAt {v v' : Value} (h : Value.Similar Taint.Below v v') {index : Nat}
    {path : List Note.Step} (ht : v.TaintedAt index path) : v'.TaintedAt index path := by
  obtain ⟨n, m, t, hn, hm, ht, htainted⟩ := ht
  obtain ⟨n', hn', hnote⟩ := some_of_rel (rel_getElem? h.notes index) hn
  obtain ⟨m', hm', hinner⟩ := some_of_rel (hnote.at? path) hm
  obtain ⟨t', ht', hbelow⟩ := some_of_rel hinner.taint? ht
  exact ⟨n', m', t', hn', hm', ht', hbelow htainted⟩

/-- **More taint in never loses a finding.** Two replays of the same calls, the second with more
tainted inputs and a catalog that lists more, fail with the same error or both succeed. Then the
same names are bound; what is tainted in the first is tainted in the second, at every position
inside every bound value; and the sinks that the first reports are reported by the second, for the
same call, method and position. -/
theorem Trace.replay_monotone {trace trace' : Trace} {catalog catalog' : Catalog}
    (htrace : trace.Raised trace') (hcatalog : catalog.Below catalog') :
    Agree (fun r r' =>
        (∀ name, Option.Rel
          (fun v v' => ∀ index path, v.TaintedAt index path → v'.TaintedAt index path)
          (r.bindings.find? name) (r'.bindings.find? name)) ∧
        ∀ callIndex method position, r.SinkReported callIndex method position →
          r'.SinkReported callIndex method position)
      (trace.replay catalog) (trace'.replay catalog') := by
  rw [Trace.replay_eq_run, Trace.replay_eq_run, ← htrace.pointerBits, ← htrace.calls]
  split
  case isFalse => exact .error _
  case isTrue =>
    -- By induction over the calls: no pair of steps loses anything.
    have hruns : Agree Replay.Raised ((Replay.start trace).run catalog trace.calls)
        ((Replay.start trace').run catalog' trace.calls) :=
      Replay.run_agree (fun _ _ call h => h.step hcatalog call) (Replay.raised_start htrace) _
    refine hruns.imp fun r r' h => ⟨fun name => ?_, h.sinks⟩
    exact rel_imp (fun v v' hv index path => hv.taintedAt) (h.similar.bindings name)

namespace Trace

/-- The catalog that lists a sink and nothing else. -/
def sendCatalog (selector : SinkSelector) : Catalog :=
  ({} : Catalog).add ⟨"LSender;.send:(LMessage;)V", .sink selector⟩

/-- A tainted message is sent by a sender that is tainted or not. -/
def sendTrace (tainted : Bool) : Trace where
  memory := [⟨4096, .text "send"⟩, ⟨4160, .text "(LMessage;)V"⟩]
  inputs := [⟨"class", .classObject "Sender"⟩, ⟨"sender", .object "Sender" tainted []⟩,
    ⟨"message", .object "Message" true ["PII"]⟩]
  calls := [
    ⟨.function "GetMethodID", [.reference "class", .address 4096, .address 4160], some "send"⟩,
    ⟨.function "CallVoidMethod", [.reference "sender", .reference "send", .reference "message"],
      none⟩]

theorem sendTrace_raised : (sendTrace false).Raised (sendTrace true) where
  pointerBits := rfl
  memory := rfl
  inputs := .cons ⟨rfl, .same _⟩ (.cons ⟨rfl, .object _ _ _⟩ (.cons ⟨rfl, .same _⟩ .nil))
  calls := rfl

theorem classify_sendCatalog (selector : SinkSelector) (signature : String) :
    (sendCatalog selector).classify signature =
      if signature = "LSender;.send:(LMessage;)V" then some (.sink selector) else none := by
  rw [sendCatalog, Catalog.classify_add]
  rfl

theorem sendCatalog_below : (sendCatalog (.position 1)).Below (sendCatalog .all) where
  source := by
    intro signature categories h
    rw [classify_sendCatalog] at h
    split at h <;> cases h
  sink := by
    intro signature selector h
    rw [classify_sendCatalog] at h ⊢
    split at h
    case isTrue hsignature => exact ⟨.all, if_pos hsignature, fun _ _ => rfl⟩
    case isFalse => cases h

set_option maxRecDepth 20000 in
/-- The message is reported in both runs. -/
theorem replay_monotone_send :
    ∃ r r', (sendTrace false).replay (sendCatalog (.position 1)) = .ok r ∧
      (sendTrace true).replay (sendCatalog .all) = .ok r' ∧
      r.SinkReported 1 "LSender;.send:(LMessage;)V" 1 ∧
      r'.SinkReported 1 "LSender;.send:(LMessage;)V" 1 := by
  obtain ⟨r, hr, hsink⟩ : ∃ r, (sendTrace false).replay (sendCatalog (.position 1)) = .ok r ∧
      r.SinkReported 1 "LSender;.send:(LMessage;)V" 1 :=
    ⟨_, rfl, _, List.mem_singleton.2 rfl, rfl, _, rfl⟩
  have hagree := replay_monotone sendTrace_raised sendCatalog_below
  rw [hr] at hagree
  generalize (sendTrace true).replay (sendCatalog .all) = result at hagree
  cases hagree with
  | ok h => exact ⟨r, _, hr, rfl, hsink, h.2 _ _ _ hsink⟩

end Trace

end NativeFlow
