import NativeFlow.Proofs.Everywhere
import NativeFlow.Proofs.WriteBack

namespace NativeFlow

/-!
# Taint along derivations

What is derived from a tainted object is tainted. A call looks no further than the first record it
finds: a field that has a value keeps its taint, whatever its owner's taint is by then. So this
rests on what is true of all objects that a replay knows, as long as nothing is assigned to fields:
their field values are as tainted as they themselves demand.

* `Taint.Within`: one record has the taint of another, and its categories.
* `Note.Derived`: the field values of a note have the taint that it demands.
* `Value.Derived`: the same everywhere in what is known about a value.
* `Replay.derived_of_run`: it holds of all values of a run that assigns to no field.
* `Behaviour.derives`: the calls that derive their result from their first argument.
* `Behaviour.reply_tainted`: those of them that are made on a tainted object return something
  tainted.
* `Replay.taint_persists`: the two together.
-/

/-! ### Taint that is handed down -/

/-- `t.Within t'`: the record `t'` has all the taint of `t`, with its categories. -/
structure Taint.Within (t t' : Taint) : Prop where
  flag : t.isTainted = true → t'.isTainted = true
  categories : ∀ category ∈ t.categories, category ∈ t'.categories

theorem Taint.Within.refl (t : Taint) : t.Within t := ⟨id, fun _ => id⟩

/-- Every field value has the taint that its owner demands, `Note.missTaint`. -/
def Note.Derived (n : Note) : Prop :=
  ∀ row ∈ n.rows, ∃ t, row.2.taint? = some t ∧ n.missTaint.Within t

/-- Everything that is known about a value is `Note.Derived`, at every depth. -/
def Value.Derived (v : Value) : Prop := v.Everywhere Note.Derived

namespace Note

/-- Without fields there is nothing to demand. -/
theorem derived_of_rows {n : Note} (h : n.rows = []) : n.Derived := by
  intro row hrow
  rw [h] at hrow
  cases hrow

/-- What an owner demands of its field values has nothing to do with Intents, so `Note.Derived`
ignores inter-component state. -/
theorem ignoresState_derived : IgnoresState Derived := fun _ _ h => h

theorem derived_of_empty {n : Note} (hrows : n.rows = []) (hextras : n.extras = []) :
    n.Everywhere Derived := by
  rw [everywhere_iff, hrows, hextras]
  exact ⟨derived_of_rows hrows, by simp, by simp⟩

/-- A blank note holds no others, whatever taint it takes in. -/
theorem Blank.derived {n : Note} (h : n.Blank) (taint : Taint) :
    (n.absorb taint).Everywhere Derived := by
  apply derived_of_empty
  · rw [rows_absorb, h.rows]
  · rw [extras_absorb, h.extras]

/-- An owner may get more field values, if these have the taint that it demands: `Note.setFields`
changes no taint. -/
theorem derived_setFields {v : Value} {isStatic : Bool} {n : Note} (howner : v.Owner isStatic n)
    (hn : n.Everywhere Derived) {value : Note} (hvalue : value.Everywhere Derived)
    (htaint : value.taint? = some n.missTaint) {fields : FieldTable Note}
    (hrows : ∀ row ∈ fields.rows, row.2 = value ∨ row ∈ n.rows) :
    (n.setFields fields).Everywhere Derived := by
  rw [everywhere_iff] at hn ⊢
  obtain ⟨hderived, hinner, hextras⟩ := hn
  rw [howner.rows_setFields, extras_setFields]
  refine ⟨?_, fun row hrow => ?_, hextras⟩
  · rw [Derived, howner.rows_setFields, missTaint_setFields]
    intro row hrow
    rcases hrows row hrow with hnew | hold
    · exact ⟨_, hnew ▸ htaint, .refl _⟩
    · exact hderived row hold
  · rcases hrows row hrow with hnew | hold
    · exact hnew ▸ hvalue
    · exact hinner row hold

end Note

namespace Value.Derived

variable {v v' : Value}

/-- `Value.readField` gives a value that has the taint that its owner demands, and leaves such
values behind. -/
theorem readField (h : v.Derived) {isStatic : Bool} {name : String} {type : JavaType} {value : Note}
    (hread : v.readField isStatic name type = some (value, v')) :
    value.Everywhere Note.Derived ∧ v'.Derived ∧
      ∃ n t, v.Owner isStatic n ∧ value.taint? = some t ∧ n.missTaint.Within t := by
  obtain ⟨n, howner, hcases⟩ := readField_cases hread
  have hn := h n howner.mem
  -- A value that was there has the taint by `h`; a new one is made with it.
  rcases hcases with ⟨rfl, row, hrow, rfl⟩ | ⟨source, fresh, fields, hfresh, rfl, rfl, hrows⟩
  · rw [Note.everywhere_iff] at hn
    obtain ⟨t, ht, hwithin⟩ := hn.1 row hrow
    exact ⟨hn.2.1 row hrow, h, n, t, howner, ht, hwithin⟩
  · have hvalue := (JavaType.blank_note? hfresh).derived n.missTaint
    have htaint : (fresh.absorb n.missTaint).taint? = some n.missTaint := by
      rw [Note.taint?_absorb, JavaType.taint?_note? hfresh, Option.map_some, Taint.clean_absorb]
    refine ⟨hvalue, fun m hm => ?_, n, _, howner, htaint, .refl _⟩
    rcases howner.mem_setFields hm with rfl | hold
    · exact Note.derived_setFields howner hn hvalue htaint hrows
    · exact h m hold

end Value.Derived

/-! ### One call -/

/-- Whether a function assigns to a field. -/
def Behaviour.assigns : Behaviour → Bool
  | .setField _ _ => true
  | _ => false

/-- A note made for the result of a method has no fields yet. -/
theorem Invocation.New.rows_eq_nil {i : Invocation} {n : Note} (h : i.New n) : n.rows = [] := by
  obtain ⟨type, source, fresh, hfresh, rfl⟩ := h
  rw [Note.rows_absorb, (JavaType.blank_note? hfresh).rows]

theorem Invocation.New.derived {i : Invocation} {n : Note} (h : i.New n) :
    n.Everywhere Note.Derived := by
  obtain ⟨type, source, fresh, hfresh, rfl⟩ := h
  exact (JavaType.blank_note? hfresh).derived _

section

variable {c : Call} (hargs : ∀ v ∈ c.args, v.Derived)

include hargs

/-- What `behaviour.effect` leaves of the arguments, if it assigns to no field. An assignment is
free to store something untainted. -/
theorem Behaviour.derived_effect_args {behaviour : Behaviour}
    (hassigns : behaviour.assigns = false) : ∀ v ∈ (behaviour.effect c).args, v.Derived := by
  refine forall_effect_args hargs fun v hv v' hchange => ?_
  cases hchange with
  | read _ hread => exact ((hargs v hv).readField hread).2.1
  | written => cases hassigns
  | told _ hi hupdate =>
    rw [← Call.args_of_invocation? hi] at hargs hv
    exact (hargs v hv).tell Note.ignoresState_derived
      (Invocation.everywhere_update? hargs hupdate)

/-- What is known about a result is derived: it is blank, known already, read or returned. -/
theorem Call.Gives.derived {behaviour : Behaviour} {n : Note} (h : c.Gives behaviour n) :
    n.Everywhere Note.Derived := by
  cases h with
  | fresh hblank => exact hblank.derived _
  | same hv hn => exact hargs _ (List.mem_of_mem_head? hv) n hn
  | read hv hread => exact ((hargs _ (List.mem_of_mem_head? hv)).readField hread).1
  | returned hi hreturns =>
    rw [← Call.args_of_invocation? hi] at hargs
    -- The taint of an extra is raised when it has no fields yet.
    exact hreturns.everywhere hargs Note.ignoresState_derived (fun n hnew => hnew.derived)
      fun o icc hnew _ => Note.derived_of_rows hnew.rows_eq_nil

/-- So is the result itself, new or passed on. -/
theorem Behaviour.derived_reply {behaviour : Behaviour} {w : Value}
    (h : (behaviour.reply c).value? = some w) : w.Derived :=
  everywhere_reply hargs (fun _ hgives => hgives.derived hargs) h

end

/-! ### Tainted objects -/

/-- The calls that derive their result from the object that is their first argument: method calls
with a receiver, reads of its fields and elements, new references to it, and its storage. -/
def Behaviour.derives : Behaviour → Bool
  | .invoke _ binding _ => binding.hasReceiver
  | .getField _ isStatic => !isStatic
  | .arrayElement | .newReference | .storage => true
  | _ => false

/-- A tainted object demands taint of its fields. -/
theorem ObjectIdentity.isTainted_missTaint {o : ObjectIdentity Note}
    (h : o.taint.isTainted = true) : o.missTaint.isTainted = true := by
  simp [missTaint, h]

/-- A note that takes in a tainted record is tainted, if it records taint at all. -/
theorem Note.isTainted_of_absorb {n : Note} {taint t : Taint} (h : taint.isTainted = true)
    (ht : (n.absorb taint).taint? = some t) : t.isTainted = true := by
  rw [taint?_absorb] at ht
  obtain ⟨s, -, rfl⟩ := Option.map_eq_some_iff.1 ht
  simp [h]

namespace Invocation

variable {i : Invocation} {o : ObjectIdentity Note}

/-- A method call on a tainted object hands taint on, be it that of the object or that of a source:
`Invocation.resultTaint` is tainted. -/
theorem isTainted_resultTaint (hreceiver : i.binding.hasReceiver = true)
    (ho : i.args.head?.bind Value.object? = some o) (htaint : o.taint.isTainted = true) :
    i.resultTaint.isTainted = true := by
  unfold resultTaint
  split
  case h_1 => rfl
  case h_2 =>
    rw [inheritedTaint_of_tainted hreceiver ho htaint]
    exact htaint

theorem New.isTainted {n : Note} (h : i.New n) (hresult : i.resultTaint.isTainted = true)
    {t : Taint} (ht : n.taint? = some t) : t.isTainted = true := by
  obtain ⟨type, source, fresh, -, rfl⟩ := h
  exact Note.isTainted_of_absorb hresult ht

/-- Whatever a method called on a tainted object returns is tainted, if it records taint at all. -/
theorem Returns.isTainted {n : Note} (h : i.Returns n) (hreceiver : i.binding.hasReceiver = true)
    (ho : i.args.head?.bind Value.object? = some o) (htaint : o.taint.isTainted = true) {t : Taint}
    (ht : n.taint? = some t) : t.isTainted = true := by
  have hresult := isTainted_resultTaint hreceiver ho htaint
  -- A new note takes in `resultTaint`; the others are the Intent itself or have an extra's taint.
  cases h with
  | fresh hnew => exact hnew.isTainted hresult ht
  | told _ hintent =>
    rw [ho] at hintent
    cases hintent
    cases ht
    exact htaint
  | sharing hnew =>
    cases ht
    exact hnew.isTainted hresult rfl
  | extra =>
    cases ht
    rw [Taint.isTainted_absorb]
    exact Bool.or_eq_true_iff.2 (.inr rfl)

end Invocation

theorem Value.taint?_of_object? {v : Value} {o : ObjectIdentity Note} (h : v.object? = some o) :
    v.taint? = some o.taint := by
  simp [taint?, h]

/-- **Taint goes from a tainted object to what is derived from it:** one case for each family of
functions that `Behaviour.derives` counts. -/
theorem Behaviour.reply_tainted {behaviour : Behaviour} (hderives : behaviour.derives = true)
    {c : Call} {v w : Value} (hv : c.args.head? = some v) (hderived : v.Derived)
    {o : ObjectIdentity Note} (ho : v.object? = some o) (htaint : o.taint.isTainted = true)
    (h : (behaviour.reply c).value? = some w) {t : Taint} (ht : w.taint? = some t) :
    t.isTainted = true := by
  have hobject : c.args.head?.bind Value.object? = some o := by rw [hv, Option.bind_some, ho]
  -- A value with the same notes has the taint of the object.
  have hsame : w.notes = v.notes → t.isTainted = true := by
    intro hnotes
    have hw : w.object? = some o := by rw [← ho, Value.object?, Value.object?, hnotes]
    rw [Value.taint?_of_object? hw] at ht
    cases ht
    exact htaint
  rcases reply_cases h with ⟨-, hhead⟩ | hnotes
  · rw [hv] at hhead
    cases hhead
    exact hsame rfl
  · obtain ⟨n, hn, hnt⟩ := Value.exists_mem_of_taint? ht
    rw [hnotes] at hn
    cases behaviour with
    | invoke returns binding passing =>
      obtain ⟨i, hi, hreturns⟩ := Call.mem_invoke hn
      obtain ⟨m, -, rfl⟩ := Option.map_eq_some_iff.1 hi
      exact hreturns.isTainted hderives hobject htaint hnt
    | getField kind isStatic =>
      obtain rfl : isStatic = false := by simpa [derives] using hderives
      obtain ⟨x, x', name, type, hx, hread⟩ := Call.mem_getField hn
      rw [hv] at hx
      cases hx
      obtain ⟨-, -, owner, s, howner, hs, hwithin⟩ := hderived.readField hread
      rw [hnt] at hs
      cases hs
      cases howner with
      | object ho' =>
        rw [ho] at ho'
        cases ho'
        exact hwithin.flag (ObjectIdentity.isTainted_missTaint htaint)
    | arrayElement =>
      obtain ⟨array, m, harray, -, rfl⟩ := Call.mem_arrayElement hn
      rw [hobject] at harray
      cases harray
      exact Note.isTainted_of_absorb htaint hnt
    | newReference =>
      refine hsame (hnotes.trans ?_)
      simp [effect, Call.newReference, Call.returning, Call.arg?, ← List.head?_eq_getElem?, hv]
    | storage =>
      rw [effect] at hn
      unfold Call.storage at hn
      split at hn <;> cases hn
    | _ => cases hderives

/-! ### Whole runs -/

/-- Nothing is in the fields of an input yet. -/
theorem InputValue.derived_notes (value : InputValue) :
    ∀ n ∈ value.notes, n.Everywhere Note.Derived := by
  cases value with
  | object javaType tainted categories =>
    intro n hn
    obtain rfl := List.mem_singleton.1 hn
    exact Note.derived_of_empty rfl (Note.blank_ofType .argument javaType).extras
  | classObject className =>
    intro n hn
    obtain rfl := List.mem_singleton.1 hn
    exact Note.derived_of_empty rfl rfl
  | string value =>
    intro n hn
    rcases List.mem_cons.1 hn with rfl | hn
    · exact Note.derived_of_empty rfl (Note.blank_ofType .argument stringClass).extras
    · obtain rfl := List.mem_singleton.1 hn
      exact Note.derived_of_empty rfl rfl
  | primitive javaType tainted categories =>
    intro n hn
    obtain rfl := List.mem_singleton.1 hn
    exact Note.derived_of_empty rfl rfl

/-- Whether a call assigns to a field. -/
def RecordedCall.assigns (call : RecordedCall) : Bool :=
  call.target.resolve?.any fun function => function.behaviour.assigns

/-- Every field value of a note is tainted, with the given categories at least. -/
def Note.RowsTainted (n : Note) (categories : SortedSet String) : Prop :=
  ∀ row ∈ n.rows, ∃ t, row.2.taint? = some t ∧ t.isTainted = true ∧
    ∀ category ∈ categories, category ∈ t.categories

/-- Where the owner demands taint with some categories, all its field values have it. -/
theorem Note.Derived.rowsTainted {n : Note} (h : n.Derived) {categories : SortedSet String}
    (hflag : n.missTaint.isTainted = true)
    (hcategories : ∀ category ∈ categories, category ∈ n.missTaint.categories) :
    n.RowsTainted categories := by
  intro row hrow
  obtain ⟨t, ht, hwithin⟩ := h row hrow
  exact ⟨t, ht, hwithin.flag hflag,
    fun category hmem => hwithin.categories category (hcategories category hmem)⟩

namespace Replay

variable {catalog : Catalog} {r : Replay}

/-- **Derived values.** Along a run that assigns to no field, field values have the taint that their
owners demand, at every depth. -/
theorem derived_of_run {trace : Trace} {calls : List RecordedCall}
    (h : (start trace).run catalog calls = .ok r)
    (hassigns : ∀ call ∈ calls, call.assigns = false) :
    ∀ name v, r.bindings.find? name = some v → v.Derived := by
  refine run_preserves (P := fun r => ∀ name v, r.bindings.find? name = some v → v.Derived) ?_ h ?_
  · intro r call hmem r' hr hstep
    refine forall_bound_of_step hstep hr Value.everywhere_plain ?_
    intro function args hmade hargs
    have hfunction : function.behaviour.assigns = false := by
      simpa [RecordedCall.assigns, hmade.target] using hassigns call hmem
    rw [reply, Behaviour.reply_effect]
    exact ⟨Behaviour.derived_effect_args hargs hfunction, fun v => Behaviour.derived_reply hargs⟩
  · intro name v hv n hn
    obtain ⟨input, -, -, hnotes⟩ := bound_of_start hv
    rw [hnotes] at hn
    exact input.value.derived_notes n hn

/-- **Taint persists along derivations.** Let a run assign to no field.

Then everywhere in the values that have a name, a tainted object has tainted field values only, with
its own categories at least; and an object that came as an argument, or a class, has tainted field
values only, of sensitive information at least.

And whatever is done next to a tainted object to derive something from it, under any catalog: if the
call returns anything, and an object or a primitive value is known about that, it is tainted. -/
theorem taint_persists {trace : Trace} {calls : List RecordedCall}
    (h : (start trace).run catalog calls = .ok r)
    (hassigns : ∀ call ∈ calls, call.assigns = false) :
    (∀ name v, r.bindings.find? name = some v → ∀ n ∈ v.notes, n.Everywhere fun m =>
      (∀ o, m = .object o → o.taint.isTainted = true → m.RowsTainted o.taint.categories) ∧
      (∀ o, m = .object o → o.source = .argument → m.RowsTainted (.ofList [sensitiveInfo])) ∧
      ∀ k, m = .classIdentity k → m.RowsTainted (.ofList [sensitiveInfo])) ∧
    ∀ catalog' call function args v o, r.Makes call function args →
      function.behaviour.derives = true → args.head? = some v → v.object? = some o →
      o.taint.isTainted = true →
      ∃ r', r.step catalog' call = .ok r' ∧
        (function.behaviour.returns ≠ .void →
          ∃ w, (r.reply catalog' function args).value? = some w ∧
            (∀ name, call.bind = some name → r'.bindings.find? name = some w) ∧
            (w.object?.isSome ∨ w.primitive?.isSome →
              ∃ t, w.taint? = some t ∧ t.isTainted = true)) := by
  have hderived := derived_of_run h hassigns
  constructor
  · intro name v hv n hn
    refine (hderived name v hv n hn).imp fun m hm => ⟨?_, ?_, ?_⟩
    · rintro o rfl htaint
      exact hm.rowsTainted (ObjectIdentity.isTainted_missTaint htaint) fun category hmem =>
        (Taint.mem_categories_absorb _ _).2 (.inr hmem)
    · rintro o rfl hsource
      have hmiss : (Note.object o).missTaint =
          (Taint.of .argumentField [sensitiveInfo]).absorb o.taint := by
        simp [Note.missTaint, ObjectIdentity.missTaint, hsource]
      refine hm.rowsTainted ?_ fun category hmem => ?_
      · rw [hmiss, Taint.isTainted_absorb]
        rfl
      · rw [hmiss, Taint.mem_categories_absorb]
        exact .inl hmem
    · rintro k rfl
      exact hm.rowsTainted rfl fun category hmem => hmem
  · intro catalog' call function args v o hmade hderives hhead ho htaint
    refine ⟨_, hmade.step_eq catalog', fun hreturns => ?_⟩
    obtain ⟨w, hw⟩ := Behaviour.exists_value? hreturns (r.view catalog' args)
    refine ⟨w, hw, fun name hbind => find?_bindings_settle_result hbind hw, fun hknown => ?_⟩
    have hv : v.Derived :=
      hmade.forall_args hderived Value.everywhere_plain v (List.mem_of_mem_head? hhead)
    have htaint? : w.taint?.isSome := by
      simpa [Value.taint?] using hknown
    obtain ⟨t, ht⟩ := Option.isSome_iff_exists.1 htaint?
    exact ⟨t, ht, Behaviour.reply_tainted hderives hhead hv ho htaint hw ht⟩

/-! ### A field of a tainted object -/

/-- A run that reads a field of a tainted object it was handed. -/
def accountTrace : Trace where
  memory := [⟨4096, .text "owner"⟩, ⟨4160, .text "LPerson;"⟩]
  inputs := [⟨"Account", .classObject "Account"⟩,
    ⟨"account", .object "Account" true ["CREDENTIAL"]⟩]
  calls := [
    ⟨.function "GetFieldID", [.reference "Account", .address 4096, .address 4160], some "field"⟩,
    ⟨.function "GetObjectField", [.reference "account", .reference "field"], some "owner"⟩]

/-- The field is read once more. -/
def readOwner : RecordedCall where
  target := .function "GetObjectField"
  args := [.reference "account", .reference "field"]
  bind := some "again"

set_option maxRecDepth 20000 in
/-- The object has a field now, with its own category and that of sensitive information, and a
second read finds something tainted there. -/
theorem taint_persists_account :
    ∃ r account o r' w t, (start accountTrace).run {} accountTrace.calls = .ok r ∧
      r.bindings.find? "account" = some account ∧ account.object? = some o ∧
      o.fields.rows.length = 1 ∧ (Note.object o).RowsTainted (.ofList ["CREDENTIAL"]) ∧
      (Note.object o).RowsTainted (.ofList [sensitiveInfo]) ∧ r.step {} readOwner = .ok r' ∧
      r'.bindings.find? "again" = some w ∧ w.taint? = some t ∧ t.isTainted = true := by
  obtain ⟨r, account, o, function, args, hr, haccount, ho, hrows, htaint, hcategories, hsource,
      hmade, hderives, hhead, hreturns, hknown⟩ :
      ∃ r account o function args, (start accountTrace).run {} accountTrace.calls = .ok r ∧
        r.bindings.find? "account" = some account ∧ account.object? = some o ∧
        o.fields.rows.length = 1 ∧ o.taint.isTainted = true ∧
        o.taint.categories = .ofList ["CREDENTIAL"] ∧ o.source = .argument ∧
        r.Makes readOwner function args ∧ function.behaviour.derives = true ∧
        args.head? = some account ∧ function.behaviour.returns ≠ .void ∧
        ∀ w, (r.reply {} function args).value? = some w →
          w.object?.isSome ∨ w.primitive?.isSome := by
    refine ⟨_, _, _, _, _, rfl, rfl, rfl, rfl, rfl, rfl, rfl, ⟨rfl, rfl, by decide, rfl⟩, rfl, rfl,
      by decide, fun w hw => ?_⟩
    cases hw
    exact .inl rfl
  have hassigns : ∀ call ∈ accountTrace.calls, call.assigns = false := by decide
  have hpersists := taint_persists hr hassigns
  obtain ⟨hown, hargument, -⟩ :=
    hpersists.1 "account" account haccount _ (Value.mem_of_object? ho) [] _ rfl
  obtain ⟨r', hstep, hresult⟩ :=
    hpersists.2 {} readOwner function args account o hmade hderives hhead ho htaint
  obtain ⟨w, hw, hbound, htainted⟩ := hresult hreturns
  obtain ⟨t, ht, hflag⟩ := htainted (hknown w hw)
  exact ⟨r, account, o, r', w, t, hr, haccount, ho, hrows, hcategories ▸ hown o rfl htaint,
    hargument o rfl hsource, hstep, hbound "again" rfl, ht, hflag⟩

end Replay

end NativeFlow
