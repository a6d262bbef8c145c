import NativeFlow.Proofs.Findings
import NativeFlow.Proofs.Result
import NativeFlow.Proofs.Run
import NativeFlow.Proofs.WellFormed.Basic

namespace NativeFlow

/-!
# Well-formed values along a run

* `Behaviour.wellFormed_effect_args`, `Behaviour.wellFormed_effect_notes`: calls with well-formed
  arguments leave well-formed arguments and give well-formed results.
* `Replay.WellFormed`: all values that have a name are well-formed, and so are the extras that have
  been reported.
* `Replay.WellFormed.step`: a call keeps a state well-formed.
* `Replay.representation_invariant`: so every state of a replay is well-formed, spelled out.
-/

/-! ### Arguments -/

/-- What a method call tells is well-formed if its arguments are: an extra is what is kept of an
argument. -/
theorem Invocation.wellFormed_update? {i : Invocation} (hargs : ∀ v ∈ i.args, v.WellFormed)
    {update : IntentUpdate} (h : i.update? = some update) : update.WellFormed := by
  cases update with
  | activity name => trivial
  | extra key value =>
    rintro n rfl
    obtain ⟨v, hv, hpayload⟩ := exists_payload_of_update? h
    exact (hargs v hv).payload? hpayload

namespace Behaviour

variable {c : Call}

/-- The same for any function; only method calls tell anything. -/
theorem wellFormed_update? (hargs : ∀ v ∈ c.args, v.WellFormed) {behaviour : Behaviour}
    {update : IntentUpdate} (h : behaviour.update? c = some update) : update.WellFormed := by
  cases behaviour with
  | invoke returns binding passing =>
    obtain ⟨i, hi, hupdate⟩ := Option.bind_eq_some_iff.1 h
    obtain ⟨method, -, rfl⟩ := Option.map_eq_some_iff.1 hi
    exact Invocation.wellFormed_update? hargs hupdate
  | _ => cases h

/-- **Arguments.** `behaviour.effect` leaves well-formed arguments behind: one case for each way in
which `Value.Touched` changes the first of them. -/
theorem wellFormed_effect_args (hargs : ∀ v ∈ c.args, v.WellFormed) (behaviour : Behaviour) :
    ∀ v ∈ (behaviour.effect c).args, v.WellFormed := by
  have htouched := behaviour.effect_touches c
  have hupdate : ∀ update, behaviour.update? c = some update → update.WellFormed :=
    fun update => wellFormed_update? hargs
  -- `cases` needs the two lists and the update to be variables.
  generalize c.args = args at htouched hargs
  generalize (behaviour.effect c).args = args' at htouched
  generalize behaviour.update? c = update? at htouched hupdate
  cases htouched with
  | nil => exact hargs
  | @cons v v' rest htouched =>
    have hv := hargs v List.mem_cons_self
    have hv' : v'.WellFormed := by
      cases htouched with
      | same => exact hv
      | told _ update => exact hv.tell (hupdate update rfl)
      | read hread => exact (hv.readField hread).2
      | written hvalue hwrite =>
        -- What is stored is what is kept of an argument, or something fresh.
        refine hv.writeField ?_ hwrite
        rcases hvalue with ⟨arg, hmem, hpayload⟩ | hfresh
        · exact (hargs arg hmem).payload? hpayload
        · exact JavaType.wellFormed_note? hfresh
    intro w hw
    rcases List.mem_cons.1 hw with rfl | hw
    · exact hv'
    · exact hargs w (List.mem_cons_of_mem _ hw)

end Behaviour

/-! ### Results -/

namespace Invocation

variable {i : Invocation}

/-- A result of which only the type and the taint are known is well-formed. -/
theorem New.wellFormed {n : Note} (h : i.New n) : n.WellFormed := by
  obtain ⟨type, source, fresh, hfresh, rfl⟩ := h
  exact (JavaType.wellFormed_note? hfresh).2.absorb _

theorem wellFormed_head (hargs : ∀ v ∈ i.args, v.WellFormed) {o : ObjectIdentity Note}
    (h : i.args.head?.bind Value.object? = some o) : o.WellFormed := by
  obtain ⟨v, hv, ho⟩ := Option.bind_eq_some_iff.1 h
  exact (hargs v (List.mem_of_mem_head? hv)).object? ho

/-- **Results of method calls.** A method call gives a well-formed result, whatever it does to
Intents. -/
theorem wellFormed_observed (hargs : ∀ v ∈ i.args, v.WellFormed) {n : Note}
    (h : i.observed.returned? = some n) : n.WellFormed := by
  cases observed_returns h with
  | fresh hnew => exact hnew.wellFormed
  | told hupdate hintent =>
    have htold := (wellFormed_head hargs hintent).tell (wellFormed_update? hargs hupdate)
    exact Note.wellFormed_object_iff.2 htold
  | sharing hnew hupdate hintent =>
    -- The result gets the state that the receiver has now, in place of its own.
    have hobject := Note.wellFormed_object_iff.1 hnew.wellFormed
    have hstate := (wellFormed_head hargs hintent).state.tell (wellFormed_update? hargs hupdate)
    exact Note.wellFormed_object_iff.2 (hobject.setState hstate)
  | extra key? hnew =>
    have hobject := Note.wellFormed_object_iff.1 hnew.wellFormed
    -- The one extra that may be known of has no value.
    have hextras : WellFormedExtras (key?.toList.map fun key => (key, none)) := by
      cases key? with
      | none => exact ⟨.nil, by simp⟩
      | some key => exact ⟨by simp [Assoc.Sorted], by simp⟩
    have hstate : IccState.WellFormed { isIcc := true, extras := _ } := ⟨fun _ => rfl, hextras⟩
    have hset := hobject.setState hstate
    exact Note.wellFormed_object_iff.2 ⟨hset.fields, hset.intent, hset.icc⟩

end Invocation

theorem Note.wellFormed_ofClass (className : String) : (Note.ofClass className).WellFormed :=
  wellFormed_classIdentity_iff.2 FieldTable.wellFormed_empty

theorem Note.wellFormed_ofObject (javaType : String) : (Note.ofObject javaType).WellFormed :=
  wellFormed_object_iff.2 (ObjectIdentity.wellFormed_ofType .native javaType)

namespace Call

variable {c : Call}

/-- The result of a function that says something well-formed about whatever it finds. -/
theorem wellFormed_returning?_map {α : Type} {found : Option α} {notes : α → List Note}
    (h : ∀ a, WellFormedNotes (notes a)) :
    WellFormedNotes (c.returning? (found.map notes)).notes := by
  cases found with
  | none => exact .nil
  | some a => exact h a

/-- The value of a field, if there is one. -/
theorem wellFormed_getField (hargs : ∀ v ∈ c.args, v.WellFormed) (isStatic : Bool) :
    WellFormedNotes (c.getField isStatic).notes := by
  unfold getField
  split
  case h_1 name type owner rest _ hc =>
    split
    case h_1 value owner' hread =>
      have howner := hargs owner (by rw [hc]; exact List.mem_cons_self)
      exact .single (howner.readField hread).1.2
    case h_2 => exact .nil
  case h_2 => exact .nil

theorem wellFormed_setField (isStatic : Bool) : WellFormedNotes (c.setField isStatic).notes := by
  unfold setField
  split
  · split
    · exact .nil
    · split <;> exact .nil
  · exact .nil

/-- The result of a method, if its descriptor says that there is one. -/
theorem wellFormed_invoke (hargs : ∀ v ∈ c.args, v.WellFormed) (binding : Binding) :
    WellFormedNotes (c.invoke binding).notes := by
  unfold invoke
  split
  case h_1 => exact .nil
  case h_2 i hi =>
    obtain ⟨method, -, rfl⟩ := Option.map_eq_some_iff.1 hi
    dsimp only
    cases hreturned : (Invocation.mk method binding c.args c.catalog).observed.returned? with
    | none => exact .nil
    | some n => exact .single (Invocation.wellFormed_observed hargs hreturned)

/-- A new reference has the notes of the value that it refers to. -/
theorem wellFormed_newReference (hargs : ∀ v ∈ c.args, v.WellFormed) :
    WellFormedNotes c.newReference.notes := by
  unfold newReference
  cases hv : c.arg? 0 with
  | none => exact .nil
  | some v => exact hargs v (List.mem_of_getElem? hv)

end Call

/-- **Results.** A call with well-formed arguments gives a well-formed result: one case for each
family of functions. -/
theorem Behaviour.wellFormed_effect_notes {c : Call} (hargs : ∀ v ∈ c.args, v.WellFormed)
    (behaviour : Behaviour) : WellFormedNotes (behaviour.effect c).notes := by
  -- Most functions look something up and say one thing about it, by `wellFormed_returning?_map`.
  cases behaviour with
  | reserved | unconstrained | superclass | length => exact .nil
  | findClass | defineClass | objectClass =>
    exact Call.wellFormed_returning?_map fun name => .single (Note.wellFormed_ofClass name)
  | allocObject =>
    exact Call.wellFormed_returning?_map fun name => .single (Note.wellFormed_ofObject name)
  | newObject =>
    refine Call.wellFormed_returning?_map fun name => .single ?_
    exact (Note.wellFormed_ofObject name).absorb _
  | newReference => exact Call.wellFormed_newReference hargs
  | methodId | fromReflectedMethod =>
    exact Call.wellFormed_returning?_map fun _ => .single (Note.wellFormed_method _)
  | fieldId | fromReflectedField =>
    exact Call.wellFormed_returning?_map fun _ => .single (Note.wellFormed_field _)
  | toReflectedMethod =>
    exact Call.wellFormed_returning?_map fun m => .pair (ObjectIdentity.wellFormed_ofType _ _)
      (Note.wellFormed_method m) (.inr (.inl rfl))
  | toReflectedField =>
    exact Call.wellFormed_returning?_map fun f => .pair (ObjectIdentity.wellFormed_ofType _ _)
      (Note.wellFormed_field f) (.inr (.inr rfl))
  | invoke returns binding passing => exact Call.wellFormed_invoke hargs binding
  | getField kind isStatic => exact Call.wellFormed_getField hargs isStatic
  | setField kind isStatic => exact Call.wellFormed_setField isStatic
  | newStringUtf | newString =>
    exact Call.wellFormed_returning?_map fun _ => .single (Note.wellFormed_string _)
  | newObjectArray | newPrimitiveArray => exact .single (Note.wellFormed_ofObject _)
  | arrayElement =>
    refine Call.wellFormed_returning?_map fun array => .single (Note.WellFormed.absorb ?_ _)
    exact Note.wellFormed_object_iff.2 (ObjectIdentity.wellFormed_ofType _ _)
  | storage =>
    simp only [effect, Call.storage]
    split <;> exact .nil
  | registerNatives =>
    simp only [effect, Call.registerNatives]
    split <;> exact .nil
  | unregisterNatives =>
    simp only [effect, Call.unregisterNatives]
    split <;> exact .nil

/-- The value that `behaviour.reply` gives back is well-formed, be it new or one of the arguments.
-/
theorem Behaviour.wellFormed_reply {c : Call} (hargs : ∀ v ∈ c.args, v.WellFormed)
    {behaviour : Behaviour} {v : Value} (h : (behaviour.reply c).value? = some v) :
    v.WellFormed := by
  rcases reply_cases h with ⟨-, hpassed⟩ | hnotes
  · exact hargs v (List.mem_of_mem_head? hpassed)
  · rw [Value.WellFormed, hnotes]
    exact behaviour.wellFormed_effect_notes hargs

/-! ### States -/

/-- All values that have a name and all extras that have been reported are well-formed. -/
structure Replay.WellFormed (r : Replay) : Prop where
  bindings : ∀ name v, r.bindings.find? name = some v → v.WellFormed
  edges : ∀ report ∈ r.reports, ∀ caller activityName extras,
    report.finding = .iccEdge caller activityName extras → WellFormedExtras extras

/-- An edge that a call reports has the well-formed extras of one of its arguments. -/
theorem Behaviour.wellFormed_edge {c : Call} (hargs : ∀ v ∈ c.args, v.WellFormed)
    {behaviour : Behaviour} {caller : String} {activityName : Option String}
    {extras : List (String × Option Note)}
    (h : .iccEdge caller activityName extras ∈ (behaviour.effect c).findings) :
    WellFormedExtras extras := by
  rcases findings_cases h with ⟨returns, binding, passing, i, -, hi, hreport⟩ | hrule
  case inr => cases hrule
  case inl =>
    obtain ⟨method, -, rfl⟩ := Option.map_eq_some_iff.1 hi
    rcases List.mem_append.1 hreport with hedge | hsink
    · -- The extras are those of the Intent that was passed.
      obtain ⟨v, icc, -, hv, hicc, heq⟩ := Invocation.mem_observed_findings_iff.1 hedge
      cases heq
      have hmem : v ∈ c.args := List.mem_of_mem_drop (List.mem_of_mem_head? hv)
      exact ((hargs v hmem).icc? hicc).extras
    · obtain ⟨_, _, _, _, _, -, -, -, -, heq⟩ := Invocation.mem_sinkFindings_iff.1 hsink
      cases heq

/-- What is known about an input is well-formed. -/
theorem InputValue.wellFormed_notes (value : InputValue) : WellFormedNotes value.notes := by
  cases value with
  | object javaType tainted categories =>
    have hfresh := ObjectIdentity.wellFormed_ofType .argument javaType
    exact .single (Note.wellFormed_object_iff.2 ⟨hfresh.fields, hfresh.intent, hfresh.icc⟩)
  | classObject className => exact .single (Note.wellFormed_ofClass className)
  | string value =>
    exact .pair (ObjectIdentity.wellFormed_ofType _ _) (Note.wellFormed_string _) (.inl rfl)
  | primitive javaType tainted categories => exact .single (Note.wellFormed_primitive _)

namespace Replay

variable {catalog : Catalog} {r r' : Replay}

namespace WellFormed

/-- **One call.** `Replay.step` keeps a state well-formed. -/
theorem step (h : r.WellFormed) {call : RecordedCall} (hstep : r.step catalog call = .ok r') :
    r'.WellFormed := by
  have heffect : ∀ function args, (r.reply catalog function args).effect =
      function.behaviour.effect (r.view catalog args) := fun _ _ => Behaviour.reply_effect _ _
  constructor
  · refine forall_bound_of_step hstep h.bindings (fun _ _ => .nil) fun function args _ hargs => ?_
    rw [heffect]
    exact ⟨function.behaviour.wellFormed_effect_args hargs,
      fun v => Behaviour.wellFormed_reply hargs⟩
  · intro report hmem caller activityName extras hfinding
    rcases step_cases hstep with ⟨_, rfl⟩ | ⟨_, _, _, _, rfl⟩ | ⟨function, args, hmade, rfl⟩
    · exact h.edges report hmem caller activityName extras hfinding
    · exact h.edges report hmem caller activityName extras hfinding
    · rcases List.mem_append.1 hmem with hold | hnew
      · exact h.edges report hold caller activityName extras hfinding
      · obtain ⟨finding, hreported, rfl⟩ := List.mem_map.1 hnew
        rw [heffect] at hreported
        obtain rfl : finding = .iccEdge caller activityName extras := hfinding
        exact Behaviour.wellFormed_edge (hmade.forall_args h.bindings fun _ _ => .nil) hreported

end WellFormed

/-! ### Whole runs -/

/-- The state before the first call is well-formed: values come from the inputs, and nothing has
been reported. -/
theorem wellFormed_start (trace : Trace) : (start trace).WellFormed := by
  constructor
  · intro name v hv
    obtain ⟨input, -, -, hnotes⟩ := bound_of_start hv
    show WellFormedNotes v.notes
    rw [hnotes]
    exact input.value.wellFormed_notes
  · rw [(start_fresh trace).1]
    intro report hmem
    exact absurd hmem List.not_mem_nil

/-- **Whole runs.** So every state that a replay reaches is well-formed. -/
theorem wellFormed_of_run {trace : Trace} {calls : List RecordedCall}
    (h : (start trace).run catalog calls = .ok r) : r.WellFormed :=
  run_preserves (fun _ _ _ _ hr hstep => hr.step hstep) h (wellFormed_start trace)

/-- **The representation invariant.** After any number of calls, a value that has a name has one
note of a kind at most, and never an object beside a class or a primitive value, so that the taint
of a primitive value is the taint of the value. Everywhere in its notes, a field has one row, fields
and extras hold objects, texts and primitive values, an Intent has inter-component state, and state
that names an activity is meant for a component. The same holds everywhere in the extras of the
edges that have been reported. -/
theorem representation_invariant {trace : Trace} {calls : List RecordedCall}
    (h : (start trace).run catalog calls = .ok r) :
    (∀ name v, r.bindings.find? name = some v →
      (v.notes.map Note.tag).Nodup ∧
      (.object ∈ v.notes.map Note.tag →
        .primitive ∉ v.notes.map Note.tag ∧ .classIdentity ∉ v.notes.map Note.tag) ∧
      (∀ p, v.primitive? = some p → v.taint? = some p.taint) ∧
      ∀ n ∈ v.notes, n.Everywhere Note.Sound) ∧
    ∀ report ∈ r.reports, ∀ caller activityName extras,
      report.finding = .iccEdge caller activityName extras →
      Assoc.Sorted extras ∧
        ∀ extra ∈ extras, ∀ n, extra.2 = some n → n.Stored ∧ n.Everywhere Note.Sound := by
  have hwf := wellFormed_of_run h
  constructor
  · intro name v hv
    have hvalue := hwf.bindings name v hv
    exact ⟨hvalue.kinds, hvalue.alone, fun p => hvalue.taint?_of_primitive?, hvalue.each⟩
  · intro report hmem caller activityName extras hfinding
    have hextras := hwf.edges report hmem caller activityName extras hfinding
    exact ⟨hextras.sorted, hextras.values⟩

/-! ### A field that is read -/

/-- A run that reads a field of an object it was handed. -/
def counterTrace : Trace where
  memory := [⟨4096, .text "count"⟩, ⟨4160, .text "I"⟩]
  inputs := [⟨"class", .classObject "Counter"⟩, ⟨"counter", .object "Counter" false []⟩]
  calls := [
    ⟨.function "GetFieldID", [.reference "class", .address 4096, .address 4160], some "field"⟩,
    ⟨.function "GetIntField", [.reference "counter", .reference "field"], some "count"⟩]

set_option maxRecDepth 20000 in
/-- What is read is a tainted primitive value, and a tainted value. Its owner has the field now, and
is sound everywhere. -/
theorem representation_invariant_counter :
    ∃ r count counter p row, (start counterTrace).run {} counterTrace.calls = .ok r ∧
      r.bindings.find? "count" = some count ∧ count.primitive? = some p ∧
      p.taint.isTainted = true ∧ count.taint? = some p.taint ∧
      r.bindings.find? "counter" = some counter ∧
      counter.notes.flatMap Note.rows = [row] ∧ ∀ n ∈ counter.notes, n.Everywhere Note.Sound := by
  obtain ⟨r, count, counter, p, row, hr, hcount, hp, htaint, hcounter, hrows⟩ :
      ∃ r count counter p row, (start counterTrace).run {} counterTrace.calls = .ok r ∧
        r.bindings.find? "count" = some count ∧ count.primitive? = some p ∧
        p.taint.isTainted = true ∧ r.bindings.find? "counter" = some counter ∧
        counter.notes.flatMap Note.rows = [row] :=
    ⟨_, _, _, _, _, rfl, rfl, rfl, rfl, rfl, rfl⟩
  have hvalues := (representation_invariant hr).1
  obtain ⟨-, -, hprimitive, -⟩ := hvalues "count" count hcount
  obtain ⟨-, -, -, hsound⟩ := hvalues "counter" counter hcounter
  exact ⟨r, count, counter, p, row, hr, hcount, hp, htaint, hprimitive p hp, hcounter, hrows,
    hsound⟩

end Replay

end NativeFlow
