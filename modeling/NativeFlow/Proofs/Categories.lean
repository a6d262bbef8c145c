import NativeFlow.Proofs.Everywhere
import NativeFlow.Proofs.Findings
import NativeFlow.Proofs.Run
import NativeFlow.Proofs.Taint

namespace NativeFlow

/-!
# Where taint comes from

No taint is invented. A call joins and copies the records that it finds in its arguments, and there
are four ways in which it can come up with one of its own: a source of the catalog, an extra that is
taken out of an Intent, and a field of an argument or of a class that is read before it has a value.

* `Taint.Closed`: a property of taint that clean records have and joins keep.
* `Note.EveryTaint`, `Value.EveryTaint`: it holds of all records in a note or a value, at any depth.
* `Call.Mints`: the records that a call comes up with.
* `Behaviour.everyTaint_effect_args`, `Behaviour.everyTaint_reply`: a property that holds of all
  records in the arguments and of those that the call comes up with holds of all that it leaves.
* `Replay.EveryTaint`: it holds of all records of a state. A call keeps it
  (`Replay.EveryTaint.step`), and so does a whole run (`Replay.EveryTaint.run`).
* `Trace.Declares`: the categories that a trace and a catalog declare.
* `Replay.taint_declared`: all categories are declared, and without a way for taint to come in there
  is none.
-/

/-- A property `P` of taint that clean records have and `Taint.absorb` keeps. -/
structure Taint.Closed (P : Taint → Prop) : Prop where
  clean : P .clean
  absorb : ∀ t t', P t → P t' → P (t.absorb t')

/-- The taint that a note records, if it records any, has the property `P`. -/
def Note.HasTaint (P : Taint → Prop) (n : Note) : Prop := ∀ t, n.taint? = some t → P t

/-- All records in a note have the property `P`, at any depth. -/
def Note.EveryTaint (P : Taint → Prop) (n : Note) : Prop := n.Everywhere (HasTaint P)

/-- All records in what is known about a value have the property `P`. -/
def Value.EveryTaint (P : Taint → Prop) (v : Value) : Prop := v.Everywhere (Note.HasTaint P)

/-- The taint that a call `c` comes up with, rather than finds in its arguments. -/
inductive Call.Mints (c : Call) : Behaviour → Taint → Prop
  /-- It calls a source. -/
  | source {returns : Kind} {binding : Binding} {passing : Passing} {i : Invocation}
      {categories : SortedSet String} (hi : c.invocation? binding = some i)
      (hsource : i.classification? = some (.source categories)) :
    Mints c (.invoke returns binding passing) (.tainted .api categories)
  /-- It takes an extra out of an Intent. -/
  | extra {returns : Kind} {binding : Binding} {passing : Passing} {i : Invocation}
      (hi : c.invocation? binding = some i)
      (hmethod : IntentMethod.of? i.method = some .getStringExtra) :
    Mints c (.invoke returns binding passing) (Taint.of .api [sensitiveInfo])
  /-- It reads a field of an object. -/
  | field {kind : Kind} : Mints c (.getField kind false) (Taint.of .argumentField [sensitiveInfo])
  /-- It reads a static field. -/
  | staticField {kind : Kind} : Mints c (.getField kind true) ClassIdentity.missTaint

section

variable {P : Taint → Prop}

/-! ### Notes -/

namespace Note

/-- The taint of an object has nothing to do with its inter-component state. -/
theorem ignoresState_hasTaint : IgnoresState (HasTaint P) := fun _ _ h => h

/-- A note without rows and extras has no record but its own. -/
theorem everyTaint_of_empty {n : Note} (hrows : n.rows = []) (hextras : n.extras = [])
    (h : n.HasTaint P) : n.EveryTaint P := by
  rw [EveryTaint, everywhere_iff, hrows, hextras]
  exact ⟨h, by simp, by simp⟩

/-- A blank note that takes in `taint` has that record and no other: its own was clean. -/
theorem Blank.everyTaint {n : Note} (h : n.Blank) {taint : Taint} (htaint : P taint) :
    (n.absorb taint).EveryTaint P := by
  refine everyTaint_of_empty ?_ ?_ ?_
  · rw [rows_absorb, h.rows]
  · rw [extras_absorb, h.extras]
  · intro t ht
    rw [taint?_absorb] at ht
    obtain ⟨own, hown, rfl⟩ := Option.map_eq_some_iff.1 ht
    rw [h.taint own hown, Taint.clean_absorb]
    exact htaint

/-- Other fields for an owner: its own record and its extras stay as they are. -/
theorem EveryTaint.setFields {v : Value} {isStatic : Bool} {n : Note}
    (howner : v.Owner isStatic n) (hn : n.EveryTaint P) {fields : FieldTable Note}
    (hrows : ∀ row ∈ fields.rows, row.2.EveryTaint P) : (n.setFields fields).EveryTaint P := by
  rw [EveryTaint, everywhere_iff] at hn ⊢
  rw [howner.rows_setFields, extras_setFields]
  refine ⟨?_, hrows, hn.2.2⟩
  rw [HasTaint, taint?_setFields]
  exact hn.1

end Note

/-! ### Values -/

namespace Value.EveryTaint

variable {v v' : Value}

/-- What `Value.taint?` finds is the record of a note of the value. -/
theorem taint? (h : v.EveryTaint P) {t : Taint} (ht : v.taint? = some t) : P t := by
  obtain ⟨n, hn, hrecord⟩ := exists_mem_of_taint? ht
  exact (h n hn).here t hrecord

/-- The same for the value that the owner is part of. -/
theorem setFields (h : v.EveryTaint P) {isStatic : Bool} {n : Note}
    (howner : v.Owner isStatic n) {fields : FieldTable Note}
    (hrows : ∀ row ∈ fields.rows, row.2.EveryTaint P) :
    (v.setFields isStatic fields).EveryTaint P := by
  intro m hm
  rcases howner.mem_setFields hm with rfl | hold
  · exact Note.EveryTaint.setFields howner (h n howner.mem) hrows
  · exact h m hold

/-- `Value.readField` leaves nothing behind but what was there and the taint that the owner demands,
`Note.missTaint`. -/
theorem readField (h : v.EveryTaint P) {isStatic : Bool}
    (hmiss : ∀ n, v.Owner isStatic n → P n.missTaint) {name : String} {type : JavaType}
    {value : Note} (hread : v.readField isStatic name type = some (value, v')) :
    value.EveryTaint P ∧ v'.EveryTaint P := by
  obtain ⟨n, howner, hcases⟩ := readField_cases hread
  have hrows := (Note.everywhere_iff.1 (h n howner.mem)).2.1
  -- A field that has a value is read as it is; a missing one is made up and stored.
  rcases hcases with ⟨rfl, row, hrow, rfl⟩ | ⟨source, fresh, fields, hfresh, rfl, rfl, hafter⟩
  · exact ⟨hrows row hrow, h⟩
  · have hvalue := (JavaType.blank_note? hfresh).everyTaint (hmiss n howner)
    refine ⟨hvalue, h.setFields howner fun row hrow => ?_⟩
    rcases hafter row hrow with hnew | hold
    · exact hnew ▸ hvalue
    · exact hrows row hold

/-- `Value.writeField` adds the records of the value that is written. -/
theorem writeField (h : v.EveryTaint P) {isStatic : Bool} {name : String} {type : JavaType}
    {value : Note} (hvalue : value.EveryTaint P)
    (hwrite : v.writeField isStatic name type value = some v') : v'.EveryTaint P := by
  rw [writeField_eq] at hwrite
  obtain ⟨fields, hfields, rfl⟩ := Option.map_eq_some_iff.1 hwrite
  obtain ⟨n, howner, hrows⟩ := exists_owner hfields
  refine h.setFields howner fun row hrow => ?_
  rcases FieldTable.mem_store hrow with rfl | hold
  · exact hvalue
  · exact (Note.everywhere_iff.1 (h n howner.mem)).2.1 row (hrows ▸ hold)

end Value.EveryTaint

/-! ### One call -/

/-- `joinTaint` is a fold of `Taint.absorb` that starts with clean taint, so a closed property holds
of it. -/
theorem Taint.Closed.joinTaint (hP : Closed P) {values : List Value}
    (h : ∀ v ∈ values, v.EveryTaint P) : P (joinTaint values) := by
  have hfold : ∀ (taints : List Taint) (t : Taint), P t → (∀ t' ∈ taints, P t') →
      P (taints.foldl Taint.absorb t) := by
    intro taints
    induction taints with
    | nil => exact fun t ht _ => ht
    | cons t' taints ih =>
      intro t ht htaints
      rw [List.forall_mem_cons] at htaints
      exact ih _ (hP.absorb t t' ht htaints.1) htaints.2
  refine hfold _ _ hP.clean fun t ht => ?_
  obtain ⟨v, hv, htaint⟩ := List.mem_filterMap.1 ht
  exact (h v hv).taint? htaint

/-- The first tainted row is one of the rows. -/
theorem FieldTable.mem_of_firstTainted? {table : FieldTable Note} {t : Taint}
    (h : table.firstTainted? = some t) : ∃ row ∈ table.rows, row.2.taint? = some t :=
  List.mem_filterMap.1 (List.mem_of_find?_eq_some h)

namespace Invocation

variable {i : Invocation} (hP : Taint.Closed P) (hargs : ∀ v ∈ i.args, v.EveryTaint P)

include hP hargs

/-- What a result inherits, `Invocation.inheritedTaint`, is a record of the receiver or of the
class. -/
theorem everyTaint_inheritedTaint : P i.inheritedTaint := by
  unfold inheritedTaint
  dsimp only
  split
  case h_1 hreceiver =>
    obtain ⟨-, hhead⟩ := receiver_eq_some hreceiver
    obtain ⟨v, hv, ho⟩ := Option.bind_eq_some_iff.1 hhead
    exact ((hargs v (List.mem_of_mem_head? hv)).object? ho).here _ rfl
  case h_2 =>
    -- Both branches of the definition look at the fields of the owner, of the object or of the
    -- class.
    have hfields : (if i.binding.hasReceiver then
          (i.args.head?.bind Value.object?).map (·.fields)
        else (i.args.head?.bind Value.class?).map (·.fields)) =
        i.args.head?.bind fun v => v.fields? !i.binding.hasReceiver := by
      cases i.args.head? <;> cases i.binding.hasReceiver <;> rfl
    rw [hfields]
    cases hfirst : (i.args.head?.bind fun v => v.fields? !i.binding.hasReceiver).bind
        FieldTable.firstTainted? with
    | none => exact hP.clean
    | some t =>
      obtain ⟨table, htable, hfirst⟩ := Option.bind_eq_some_iff.1 hfirst
      obtain ⟨v, hv, htable⟩ := Option.bind_eq_some_iff.1 htable
      obtain ⟨n, howner, hrows⟩ := Value.exists_owner htable
      obtain ⟨row, hrow, ht⟩ := FieldTable.mem_of_firstTainted? hfirst
      have hn := Note.everywhere_iff.1 (hargs v (List.mem_of_mem_head? hv) n howner.mem)
      exact (hn.2.1 row (hrows ▸ hrow)).here t ht

variable (hsource : ∀ categories, i.classification? = some (.source categories) →
    P (.tainted .api categories))

include hsource

/-- The taint of a result is that of a source of the catalog, or else inherited. -/
theorem everyTaint_resultTaint : P i.resultTaint := by
  unfold resultTaint
  split
  case h_1 categories hclass => exact hsource categories hclass
  case h_2 => exact everyTaint_inheritedTaint hP hargs

/-- A note made for the result records `Invocation.resultTaint` and nothing else. -/
theorem New.everyTaint {n : Note} (h : i.New n) : n.EveryTaint P := by
  obtain ⟨type, source, fresh, hfresh, rfl⟩ := h
  exact (JavaType.blank_note? hfresh).everyTaint (everyTaint_resultTaint hP hargs hsource)

/-- **Results of methods.** The taint in what `Invocation.Returns` gives is inherited, or comes from
a source or an extra. -/
theorem Returns.everyTaint (hextra : IntentMethod.of? i.method = some .getStringExtra →
      P (Taint.of .api [sensitiveInfo])) {n : Note} (h : i.Returns n) : n.EveryTaint P := by
  refine h.everywhere hargs Note.ignoresState_hasTaint
    (fun n hnew => hnew.everyTaint hP hargs hsource) fun o icc hnew hmethod => ?_
  rintro _ ⟨⟩
  exact hP.absorb _ _ ((hnew.everyTaint hP hargs hsource).here o.taint rfl) (hextra hmethod)

end Invocation

section

variable {c : Call} {behaviour : Behaviour} (hP : Taint.Closed P)
  (hmints : ∀ t, c.Mints behaviour t → P t) (hargs : ∀ v ∈ c.args, v.EveryTaint P)

include hP hmints

/-- What a read makes up is what `Call.Mints` lets it come up with, joined with the taint of the
owner. -/
theorem Value.EveryTaint.missTaint {v : Value} (h : v.EveryTaint P) {kind : Kind} {isStatic : Bool}
    (hread : behaviour = .getField kind isStatic) {n : Note} (howner : v.Owner isStatic n) :
    P n.missTaint := by
  subst hread
  cases howner with
  | classIdentity => exact hmints _ .staticField
  | @object o ho =>
    refine hP.absorb _ _ ?_ ((h.object? ho).here o.taint rfl)
    -- Only the fields of an argument come up with taint of their own.
    split
    · exact hmints _ .field
    · exact hP.clean

include hargs

/-- **Arguments.** What `behaviour.effect` leaves of the arguments: one case for each way in which
`Call.Changes` changes the first of them. -/
theorem Behaviour.everyTaint_effect_args : ∀ v ∈ (behaviour.effect c).args, v.EveryTaint P := by
  refine forall_effect_args hargs fun v hmem v' hchange => ?_
  have hv := hargs v hmem
  cases hchange with
  | read _ hread =>
    exact (hv.readField (fun n => hv.missTaint hP hmints rfl) hread).2
  | written _ hstored hwrite =>
    refine hv.writeField ?_ hwrite
    rcases Call.storedArg?_cases hstored with ⟨arg, harg, hpayload⟩ | hfresh
    · exact hargs arg harg _ (Value.mem_of_payload? hpayload)
    · have hblank := (JavaType.blank_note? hfresh).everyTaint hP.clean
      rwa [Note.absorb_clean] at hblank
  | told _ hi hupdate =>
    rw [← Call.args_of_invocation? hi] at hargs
    exact hv.tell Note.ignoresState_hasTaint (Invocation.everywhere_update? hargs hupdate)

/-- What is known about a result: one case for each way in which `Call.Gives` comes by a note. -/
theorem Call.Gives.everyTaint {n : Note} (h : c.Gives behaviour n) : n.EveryTaint P := by
  cases h with
  | fresh hblank hlends =>
    refine hblank.everyTaint ?_
    cases hlends with
    | clean => exact hP.clean
    | joined => exact hP.joinTaint fun v hv => hargs v (List.mem_of_mem_drop hv)
    | element ho =>
      obtain ⟨v, hv, hobject⟩ := Option.bind_eq_some_iff.1 ho
      exact ((hargs v (List.mem_of_mem_head? hv)).object? hobject).here _ rfl
  | same hv hn => exact hargs _ (List.mem_of_mem_head? hv) n hn
  | read hv hread =>
    have howner := hargs _ (List.mem_of_mem_head? hv)
    exact (howner.readField (fun n => howner.missTaint hP hmints rfl) hread).1
  | returned hi hreturns =>
    have hsource := fun categories h => hmints (.tainted .api categories) (.source hi h)
    have hextra := fun h => hmints _ (.extra hi h)
    obtain ⟨m, -, rfl⟩ := Option.map_eq_some_iff.1 hi
    exact hreturns.everyTaint hP hargs hsource hextra

/-- **Results.** What `behaviour.reply` gives back. -/
theorem Behaviour.everyTaint_reply {w : Value} (h : (behaviour.reply c).value? = some w) :
    w.EveryTaint P :=
  everywhere_reply hargs (fun _ hgives => hgives.everyTaint hP hmints hargs) h

end

/-! ### Findings -/

/-- All records in a finding have the property `P`. A sink reports the categories of such a record.
-/
def Finding.EveryTaint (P : Taint → Prop) : Finding → Prop
  | .iccEdge _ _ extras => ∀ extra ∈ extras, ∀ n, extra.2 = some n → n.EveryTaint P
  | .taintedSink _ _ categories =>
    ∃ t, P t ∧ t.isTainted = true ∧ categories = t.categories.toList
  | .nativeRebind .. => True

/-- What a sink can watch are the receiver and the arguments of the method. -/
theorem Invocation.mem_args_of_watched {i : Invocation} {position : Nat} {v : Value}
    (h : i.watched[position]? = some v) : v ∈ i.args := by
  rcases List.mem_append.1 (List.mem_of_getElem? h) with hreceiver | hargument
  · rw [Option.mem_toList, receiver?] at hreceiver
    split at hreceiver
    · exact List.mem_of_mem_head? hreceiver
    · cases hreceiver
  · exact List.mem_of_mem_drop hargument

/-- **Findings.** What `behaviour.effect` reports. -/
theorem Behaviour.everyTaint_findings {c : Call} {behaviour : Behaviour}
    (hargs : ∀ v ∈ c.args, v.EveryTaint P) :
    ∀ f ∈ (behaviour.effect c).findings, f.EveryTaint P := by
  intro f hf
  rcases findings_cases hf with ⟨returns, binding, passing, i, -, hi, hreport⟩ | hrule
  case inr =>
    cases f with
    | nativeRebind => trivial
    | iccEdge | taintedSink => cases hrule
  case inl =>
    obtain ⟨method, -, rfl⟩ := Option.map_eq_some_iff.1 hi
    rcases List.mem_append.1 hreport with hedge | hsink
    · -- The extras are those of the Intent that was passed.
      obtain ⟨v, icc, -, hv, hicc, rfl⟩ := Invocation.mem_observed_findings_iff.1 hedge
      obtain ⟨o, ho, hstate⟩ := Option.bind_eq_some_iff.1 hicc
      have hmem : v ∈ c.args := List.mem_of_mem_drop (List.mem_of_mem_head? hv)
      exact (Note.everywhere_object_iff.1 ((hargs v hmem).object? ho)).2.2 icc hstate
    -- A sink reports the categories of an argument that it watches.
    · obtain ⟨selector, position, v, origin, categories, -, hv, htaint, -, rfl⟩ :=
        Invocation.mem_sinkFindings_iff.1 hsink
      have hmem : v ∈ c.args := Invocation.mem_args_of_watched hv
      exact ⟨_, (hargs v hmem).taint? htaint, rfl, rfl⟩

/-! ### Runs -/

/-- All records of a state have the property `P`. -/
structure Replay.EveryTaint (P : Taint → Prop) (r : Replay) : Prop where
  bindings : ∀ name v, r.bindings.find? name = some v → v.EveryTaint P
  reports : ∀ report ∈ r.reports, report.finding.EveryTaint P

namespace Replay

variable {catalog : Catalog} {r r' : Replay} {call : RecordedCall}

/-- **One call.** `Replay.step` keeps a closed property that holds of whatever its call comes up
with. -/
theorem EveryTaint.step (hP : Taint.Closed P) (h : r.EveryTaint P)
    (hmints : ∀ function args, r.Makes call function args →
      ∀ t, (r.view catalog args).Mints function.behaviour t → P t)
    (hstep : r.step catalog call = .ok r') : r'.EveryTaint P := by
  have hplain : ∀ handle bits, Value.EveryTaint P { handle, bits } := Value.everywhere_plain
  have heffect : ∀ function args, (r.reply catalog function args).effect =
      function.behaviour.effect (r.view catalog args) := fun _ _ => Behaviour.reply_effect _ _
  constructor
  · refine forall_bound_of_step hstep h.bindings hplain fun function args hmade hargs => ?_
    rw [heffect]
    exact ⟨Behaviour.everyTaint_effect_args hP (hmints function args hmade) hargs,
      fun v => Behaviour.everyTaint_reply hP (hmints function args hmade) hargs⟩
  · rcases step_cases hstep with ⟨_, rfl⟩ | ⟨_, _, _, _, rfl⟩ | ⟨function, args, hmade, rfl⟩
    · exact h.reports
    · exact h.reports
    · intro report hmem
      rcases List.mem_append.1 hmem with hold | hnew
      · exact h.reports report hold
      · obtain ⟨finding, hfinding, rfl⟩ := List.mem_map.1 hnew
        rw [heffect] at hfinding
        have hargs := hmade.forall_args h.bindings hplain
        exact Behaviour.everyTaint_findings hargs finding hfinding

/-- A run of `calls` from `r` makes a call of `function` with `args` in the state `s`. -/
def RunMakes (catalog : Catalog) (r : Replay) (calls : List RecordedCall) (s : Replay)
    (function : Function) (args : List Value) : Prop :=
  ∃ before call after, calls = before ++ call :: after ∧ r.run catalog before = .ok s ∧
    s.Makes call function args

/-- **Whole runs.** `Replay.run` keeps a closed property that holds of whatever its calls come up
with. -/
theorem EveryTaint.run (hP : Taint.Closed P) {calls : List RecordedCall}
    (hmints : ∀ s function args, r.RunMakes catalog calls s function args →
      ∀ t, (s.view catalog args).Mints function.behaviour t → P t)
    (hrun : r.run catalog calls = .ok r') (h : r.EveryTaint P) : r'.EveryTaint P := by
  refine run_preserves_reached ?_ hrun h
  intro before call after s s' hcalls hbefore hs hstep
  refine hs.step hP (fun function args hmade => ?_) hstep
  exact hmints s function args ⟨before, call, after, hcalls, hbefore, hmade⟩

/-- The taint records of a state: those in the values that have a name, and those in the extras that
have been reported, at any depth. -/
inductive Records (r : Replay) : Taint → Prop
  | bound {name : String} {v : Value} {n m : Note} {path : List Note.Step} {t : Taint}
      (hv : r.bindings.find? name = some v) (hn : n ∈ v.notes) (hm : n.at? path = some m)
      (ht : m.taint? = some t) : Records r t
  | reported {report : Report} {caller key : String} {activityName : Option String}
      {extras : List (String × Option Note)} {n m : Note} {path : List Note.Step} {t : Taint}
      (hreport : report ∈ r.reports)
      (hfinding : report.finding = .iccEdge caller activityName extras)
      (hextra : (key, some n) ∈ extras) (hm : n.at? path = some m) (ht : m.taint? = some t) :
    Records r t

/-- What holds everywhere in a state holds of each of its `Records`. -/
theorem EveryTaint.records (h : r.EveryTaint P) {t : Taint} (ht : r.Records t) : P t := by
  cases ht with
  | bound hv hn hm ht => exact h.bindings _ _ hv _ hn _ _ hm t ht
  | reported hreport hfinding hextra hm ht =>
    have hedge := h.reports _ hreport
    rw [hfinding] at hedge
    exact hedge _ hextra _ rfl _ _ hm t ht

/-- The categories that a sink has reported are those of a tainted record with the property. -/
theorem EveryTaint.sink (h : r.EveryTaint P) {report : Report} (hreport : report ∈ r.reports)
    {method : String} {position : Nat} {categories : List String}
    (hfinding : report.finding = .taintedSink method position categories) :
    ∃ t, P t ∧ t.isTainted = true ∧ categories = t.categories.toList := by
  have hsink := h.reports report hreport
  rw [hfinding] at hsink
  exact hsink

end Replay

/-! ### Inputs -/

/-- The categories of an input that is declared tainted. -/
def InputValue.declared? : InputValue → Option (List String)
  | .object _ true categories | .primitive _ true categories => some categories
  | _ => none

/-- The notes of an input record clean taint, or the declared one where it is declared tainted. -/
theorem InputValue.everyTaint_notes (hP : Taint.Closed P) (value : InputValue)
    (h : ∀ categories, value.declared? = some categories → P (Taint.of .argument categories)) :
    ∀ n ∈ value.notes, n.EveryTaint P := by
  -- Whatever is not declared is blank, and so records clean taint at most.
  have hblank : ∀ n : Note, n.Blank → n.EveryTaint P := by
    intro n hn
    rw [← n.absorb_clean]
    exact hn.everyTaint hP.clean
  cases value with
  | object javaType tainted categories =>
    intro n hn
    obtain rfl := List.mem_singleton.1 hn
    refine Note.everyTaint_of_empty rfl (Note.blank_ofType .argument javaType).extras ?_
    rintro _ ⟨⟩
    cases tainted with
    | true => exact h categories rfl
    | false => exact hP.clean
  | classObject className =>
    intro n hn
    obtain rfl := List.mem_singleton.1 hn
    exact hblank _ (Note.blank_of_taint? rfl rfl)
  | string value =>
    intro n hn
    rcases List.mem_cons.1 hn with rfl | hn
    · exact hblank _ (Note.blank_ofType _ _)
    · obtain rfl := List.mem_singleton.1 hn
      exact hblank _ (Note.blank_of_taint? rfl rfl)
  | primitive javaType tainted categories =>
    intro n hn
    obtain rfl := List.mem_singleton.1 hn
    refine Note.everyTaint_of_empty rfl rfl ?_
    rintro _ ⟨⟩
    cases tainted with
    | true => exact h categories rfl
    | false => exact hP.clean

/-- Before the first call there are the records of the inputs and nothing else. -/
theorem Replay.everyTaint_start (hP : Taint.Closed P) {trace : Trace}
    (h : ∀ input ∈ trace.inputs, ∀ categories, input.value.declared? = some categories →
      P (Taint.of .argument categories)) : (start trace).EveryTaint P := by
  constructor
  · intro name v hv
    obtain ⟨input, hinput, -, hnotes⟩ := bound_of_start hv
    rw [Value.EveryTaint, Value.Everywhere, hnotes]
    exact input.value.everyTaint_notes hP (h input hinput)
  · rw [(start_fresh trace).1]
    intro report hmem
    exact absurd hmem List.not_mem_nil

end

/-! ### Declared categories -/

/-- The categories that a trace and a catalog declare: that of sensitive places, those of inputs
that are declared tainted, and those of the sources of the catalog. -/
inductive Trace.Declares (trace : Trace) (catalog : Catalog) : String → Prop
  | sensitive : Declares trace catalog sensitiveInfo
  | input {input : Input} {categories : List String} {category : String}
      (hinput : input ∈ trace.inputs) (hdeclared : input.value.declared? = some categories)
      (hmem : category ∈ categories) : Declares trace catalog category
  | source {signature : String} {categories : SortedSet String} {category : String}
      (hsource : catalog.classify signature = some (.source categories))
      (hmem : category ∈ categories) : Declares trace catalog category

/-- The categories of a join are those of its two sides, so a property of all categories is closed.
-/
theorem Taint.closed_categories (D : String → Prop) :
    Closed fun t => ∀ category ∈ t.categories, D category where
  clean := by simp [categories]
  absorb t t' ht ht' := by
    intro category hmem
    rcases (mem_categories_absorb t t').1 hmem with hmem | hmem
    · exact ht category hmem
    · exact ht' category hmem

/-- To be untainted is a closed property. -/
theorem Taint.closed_untainted : Closed fun t => t.isTainted = false where
  clean := rfl
  absorb t t' ht ht' := by rw [isTainted_absorb, ht, ht', Bool.or_false]

namespace Replay

variable {catalog : Catalog} {r : Replay} {trace : Trace} {calls : List RecordedCall}

/-- The catalog in which an invocation is looked up is that of the run. -/
theorem classify_of_invocation? {s : Replay} {args : List Value} {binding : Binding}
    {i : Invocation} (hi : (s.view catalog args).invocation? binding = some i) :
    i.classification? = catalog.classify i.method.fullSignature := by
  obtain ⟨method, -, rfl⟩ := Option.map_eq_some_iff.1 hi
  rfl

/-- After any run all categories are declared: `EveryTaint.run` with `Taint.closed_categories`. -/
theorem categories_declared_of_run (h : (start trace).run catalog calls = .ok r) :
    r.EveryTaint fun t => ∀ category ∈ t.categories, trace.Declares catalog category := by
  have hsensitive : ∀ origin, ∀ category ∈ (Taint.of origin [sensitiveInfo]).categories,
      trace.Declares catalog category := by
    intro origin category hmem
    obtain rfl : category = sensitiveInfo := by simpa [Taint.of, Taint.categories] using hmem
    exact .sensitive
  -- Joins bring categories together, and records of inputs and calls have declared ones.
  have hP := Taint.closed_categories (trace.Declares catalog)
  refine EveryTaint.run hP (fun s function args _ t hmints => ?_) h (everyTaint_start hP ?_)
  · generalize function.behaviour = behaviour at hmints
    cases hmints with
    | source hi hsource =>
      rw [classify_of_invocation? hi] at hsource
      exact fun category hmem => .source hsource hmem
    | extra | field | staticField => exact hsensitive _
  · intro input hinput categories hdeclared category hmem
    exact .input hinput hdeclared (by simpa [Taint.of, Taint.categories] using hmem)

/-- **No invented taint.** After any number of calls, every taint record is well-formed, and every
category in it and in what sinks have reported is declared. On these records the fieldwise join
`Taint.Record.absorb` is the join of taint, and what it makes of two of them is well-formed again.
If no input is declared tainted, the catalog has no source, no field has been read and no extra has
been taken out of an Intent, then no record is tainted and no sink has reported anything. -/
theorem taint_declared (h : (start trace).run catalog calls = .ok r) :
    (∀ t, r.Records t →
      (t.isTainted = false → t.origin? = none ∧ t.categories = .empty) ∧
      (t.isTainted = true → t.origin?.isSome = true) ∧
      ∀ category ∈ t.categories, trace.Declares catalog category) ∧
    (∀ t u, r.Records t → r.Records u → t.record.WellFormed ∧
      t.record.absorb u.record = (t.absorb u).record ∧ (t.record.absorb u.record).WellFormed) ∧
    (∀ report ∈ r.reports, ∀ method position categories,
      report.finding = .taintedSink method position categories →
      ∀ category ∈ categories, trace.Declares catalog category) ∧
    ((∀ input ∈ trace.inputs, input.value.declared? = none) →
      (∀ signature categories, catalog.classify signature ≠ some (.source categories)) →
      (∀ s function args, (start trace).RunMakes catalog calls s function args →
        ∀ kind isStatic, function.behaviour ≠ .getField kind isStatic) →
      (∀ s function args, (start trace).RunMakes catalog calls s function args →
        ∀ returns binding passing i, function.behaviour = .invoke returns binding passing →
          (s.view catalog args).invocation? binding = some i →
          (i.method.className, i.method.methodName) ≠ (intentClass, "getStringExtra")) →
      (∀ t, r.Records t → t.isTainted = false) ∧
        ∀ report ∈ r.reports, report.finding.rule ≠ .taintedSink) := by
  have hdeclared := categories_declared_of_run h
  refine ⟨?_, ?_, ?_, ?_⟩
  · intro t ht
    exact ⟨t.wellFormed_record.clean, t.wellFormed_record.tainted, hdeclared.records ht⟩
  · intro t u _ _
    exact ⟨t.wellFormed_record, (Taint.record_absorb t u).symm,
      t.wellFormed_record.absorb u.wellFormed_record⟩
  · intro report hreport method position categories hfinding category hmem
    obtain ⟨t, ht, -, rfl⟩ := hdeclared.sink hreport hfinding
    exact ht category (SortedSet.mem_toList.1 hmem)
  · intro hinputs hsources hfields hextras
    have hclean : r.EveryTaint fun t => t.isTainted = false := by
      have hP := Taint.closed_untainted
      refine EveryTaint.run hP (fun s function args hmade t hmints => ?_) h (everyTaint_start hP ?_)
      · -- Each way in which a call comes up with taint is ruled out.
        have hfield := hfields s function args hmade
        have hextra := hextras s function args hmade
        generalize function.behaviour = behaviour at hmints hfield hextra
        cases hmints with
        | source hi hsource =>
          rw [classify_of_invocation? hi] at hsource
          exact absurd hsource (hsources _ _)
        | extra hi hmethod =>
          exact absurd (IntentMethod.of?_eq_some_iff.1 hmethod).symm (hextra _ _ _ _ rfl hi)
        | field | staticField => exact absurd rfl (hfield _ _)
      · intro input hinput categories hsome
        rw [hinputs input hinput] at hsome
        cases hsome
    refine ⟨fun t => hclean.records, fun report hreport hrule => ?_⟩
    cases hfinding : report.finding with
    | taintedSink method position categories =>
      obtain ⟨t, hflag, hflag', -⟩ := hclean.sink hreport hfinding
      rw [hflag] at hflag'
      cases hflag'
    | iccEdge | nativeRebind =>
      rw [hfinding] at hrule
      cases hrule

/-- A run that makes an object from another one, which may be declared tainted. -/
def parcelTrace (tainted : Bool) : Trace where
  inputs := [⟨"class", .classObject "Parcel"⟩, ⟨"letter", .object "Letter" tainted ["PRIVATE"]⟩]
  calls :=
    [⟨.function "NewObject", [.reference "class", .literal 0, .reference "letter"], some "parcel"⟩]

set_option maxRecDepth 20000 in
/-- The object that is made from a tainted one is tainted, with declared categories. The one that is
made from an untainted one is not, nor is anything else. -/
theorem taint_declared_parcel :
    (∃ r parcel t, (start (parcelTrace true)).run {} (parcelTrace true).calls = .ok r ∧
      r.bindings.find? "parcel" = some parcel ∧ parcel.taint? = some t ∧ t.isTainted = true ∧
      ∀ category ∈ t.categories, (parcelTrace true).Declares {} category) ∧
    ∃ r, (start (parcelTrace false)).run {} (parcelTrace false).calls = .ok r ∧
      (r.bindings.find? "parcel").isSome = true ∧ ∀ t, r.Records t → t.isTainted = false := by
  constructor
  · obtain ⟨r, parcel, o, hr, hparcel, ho, hflag⟩ :
        ∃ r parcel o, (start (parcelTrace true)).run {} (parcelTrace true).calls = .ok r ∧
          r.bindings.find? "parcel" = some parcel ∧ parcel.object? = some o ∧
          o.taint.isTainted = true := ⟨_, _, _, rfl, rfl, rfl, rfl⟩
    have hrecord : r.Records o.taint :=
      .bound hparcel (Value.mem_of_object? ho) (Note.at?_nil _) rfl
    obtain ⟨-, -, hcategories⟩ := (taint_declared hr).1 o.taint hrecord
    exact ⟨r, parcel, o.taint, hr, hparcel, by simp [Value.taint?, ho], hflag, hcategories⟩
  · obtain ⟨r, hr, hbound⟩ :
        ∃ r, (start (parcelTrace false)).run {} (parcelTrace false).calls = .ok r ∧
          (r.bindings.find? "parcel").isSome = true := ⟨_, rfl, rfl⟩
    have hmade : ∀ s function args,
        (start (parcelTrace false)).RunMakes {} (parcelTrace false).calls s function args →
        function.behaviour = .newObject := by
      rintro s function args ⟨before, call, after, hcalls, -, hmakes⟩
      have hmem : call ∈ (parcelTrace false).calls := by simp [hcalls]
      obtain rfl := List.mem_singleton.1 hmem
      have hnew : (Target.function "NewObject").resolve?.map (·.behaviour) = some .newObject := rfl
      rw [hmakes.target] at hnew
      exact Option.some.inj hnew
    obtain ⟨-, -, -, hclean⟩ := taint_declared hr
    refine ⟨r, hr, hbound, (hclean ?_ ?_ ?_ ?_).1⟩
    · decide
    · exact fun _ _ => nofun
    · intro s function args hmakes kind isStatic hread
      rw [hmade s function args hmakes] at hread
      cases hread
    · intro s function args hmakes returns binding passing i hinvoke
      rw [hmade s function args hmakes] at hinvoke
      cases hinvoke

end Replay

end NativeFlow
