import NativeFlow.Proofs.Effect
import NativeFlow.Proofs.Position

namespace NativeFlow

/-!
# What calls return

What can be known about the result of a call is said once, and what holds of all results is derived
from it.

* `Note.Blank`: a note that has just been made, with nothing in it and without taint.
* `Invocation.Returns`, `Invocation.observed_returns`: what a method call can say about its result.
* `Call.Lends`: the taint that a call that makes something new can give it.
* `Call.Gives`, `Behaviour.effect_gives`: what any call can say about its result.
-/

/-! ### New notes -/

/-- A note that holds no others and records no taint. -/
structure Note.Blank (n : Note) : Prop where
  rows : n.rows = []
  extras : n.extras = []
  taint : ∀ t, n.taint? = some t → t = .clean

namespace Note

/-- `Note.absorb` leaves the fields of a note as they are. -/
theorem rows_absorb (taint : Taint) (n : Note) : (n.absorb taint).rows = n.rows := by
  cases n <;> rfl

theorem extras_absorb (taint : Taint) (n : Note) : (n.absorb taint).extras = n.extras := by
  cases n <;> rfl

/-- `Note.absorb` joins the taint to what the note records, if it records any. -/
theorem taint?_absorb (taint : Taint) (n : Note) :
    (n.absorb taint).taint? = n.taint?.map fun t => t.absorb taint := by
  cases n <;> rfl

theorem absorb_clean (n : Note) : n.absorb .clean = n := by
  cases n <;> simp [absorb]

/-- A fresh object is blank, an Intent too: its state has no extras yet. -/
theorem blank_ofType (source : Provenance) (javaType : String) :
    (Note.object (.ofType source javaType)).Blank := by
  refine ⟨rfl, ?_, ?_⟩
  · by_cases h : javaType = intentClass <;> simp [extras, icc?, ObjectIdentity.ofType, h]
  · rintro _ ⟨⟩
    rfl

/-- A note of a kind that records no taint holds no others, unless it has static fields. -/
theorem blank_of_taint? {n : Note} (htaint : n.taint? = none) (hrows : n.rows = []) : n.Blank := by
  refine ⟨hrows, ?_, by simp [htaint]⟩
  cases n with
  | object o => cases htaint
  | _ => rfl

end Note

/-- A fresh note of a type is blank, whatever the type. -/
theorem JavaType.blank_note? {type : JavaType} {source : Provenance} {n : Note}
    (h : type.note? source = some n) : n.Blank := by
  unfold note? at h
  split at h
  case h_1 => cases h
  case h_2 =>
    cases h
    refine ⟨rfl, rfl, ?_⟩
    rintro _ ⟨⟩
    rfl
  all_goals
    cases h
    exact Note.blank_ofType _ _

/-! ### Intents -/

/-- What holds everywhere in an Intent and in what it is told holds everywhere in the extras that
`IccState.tell` leaves. -/
theorem ObjectIdentity.everywhere_tell {P : Note → Prop} {o : ObjectIdentity Note}
    (h : (Note.object o).Everywhere P) {update : IntentUpdate}
    (hupdate : ∀ key n, update = .extra key (some n) → n.Everywhere P) :
    ∀ extra ∈ ((o.icc.getD {}).tell update).extras, ∀ m, extra.2 = some m →
      m.Everywhere P := by
  intro extra hmem m hm
  rcases IccState.mem_extras_tell hmem with hold | hnew
  · cases hicc : o.icc with
    | none =>
      rw [hicc] at hold
      cases hold
    | some icc =>
      rw [hicc] at hold
      exact (Note.everywhere_object_iff.1 h).2.2 icc hicc extra hold m hm
  · exact hupdate extra.1 m (by rw [hnew, hm])

/-- What `Invocation.update?` tells is known about an argument. -/
theorem Invocation.everywhere_update? {P : Note → Prop} {i : Invocation}
    (hargs : ∀ v ∈ i.args, ∀ n ∈ v.notes, n.Everywhere P) {update : IntentUpdate}
    (hupdate : i.update? = some update) :
    ∀ key n, update = .extra key (some n) → n.Everywhere P := by
  rintro key n rfl
  obtain ⟨v, hv, hpayload⟩ := exists_payload_of_update? hupdate
  exact hargs v hv n (Value.mem_of_payload? hpayload)

/-! ### Method calls -/

/-- A new note of the result of a method: a type is all that is known, apart from the taint. -/
def Invocation.New (i : Invocation) (n : Note) : Prop :=
  ∃ type source fresh, JavaType.note? type source = some fresh ∧ fresh.absorb i.resultTaint = n

/-- What a method call can say about its result. -/
inductive Invocation.Returns (i : Invocation) : Note → Prop
  /-- It is new. -/
  | fresh {n : Note} (h : i.New n) : Returns i n
  /-- It is the Intent that has been told something. -/
  | told {update : IntentUpdate} {intent : ObjectIdentity Note} (hupdate : i.update? = some update)
      (hintent : i.args.head?.bind Value.object? = some intent) :
    Returns i (.object (intent.tell update))
  /-- It is new, and has the state of the Intent that has been told something. -/
  | sharing {o intent : ObjectIdentity Note} {update : IntentUpdate} (h : i.New (.object o))
      (hupdate : i.update? = some update)
      (hintent : i.args.head?.bind Value.object? = some intent) :
    Returns i (.object { o with icc := some ((intent.icc.getD {}).tell update) })
  /-- It is new, and was taken out of an Intent, where a key may be known. -/
  | extra {o : ObjectIdentity Note} (key? : Option String) (h : i.New (.object o))
      (hmethod : IntentMethod.of? i.method = some .getStringExtra) :
    Returns i (.object
      { o with
        taint := o.taint.absorb (Taint.of .api [sensitiveInfo])
        icc := some { isIcc := true, extras := key?.toList.map fun key => (key, none) } })

namespace Invocation

variable {i : Invocation}

/-- Before Intents are looked at, the result of a method is new. -/
theorem new_of_returned? {n : Note} (h : i.returned? = some n) : i.New n := by
  unfold returned? at h
  split at h
  case h_1 signature _ =>
    obtain ⟨fresh, hfresh, rfl⟩ := Option.map_eq_some_iff.1 h
    exact ⟨signature.returns, i.provenance, fresh, hfresh, rfl⟩
  case h_2 => cases h

/-- A tainted object hands down its own taint: `Invocation.inheritedTaint` does not look at its
fields. -/
theorem inheritedTaint_of_tainted {o : ObjectIdentity Note}
    (hreceiver : i.binding.hasReceiver = true) (ho : i.args.head?.bind Value.object? = some o)
    (htaint : o.taint.isTainted = true) : i.inheritedTaint = o.taint := by
  have hobject : i.receiver?.bind Value.object? = some o := by
    rw [IntentMethod.receiver?_bind_object?, if_pos hreceiver, ho]
  obtain ⟨source, javaType, fields, taint, icc⟩ := o
  cases taint with
  | clean => cases htaint
  | tainted origin categories =>
    unfold inheritedTaint
    rw [hobject]

/-- **Method calls** say nothing about their results but what `Invocation.Returns` lists. -/
theorem observed_returns {n : Note} (h : i.observed.returned? = some n) : i.Returns n := by
  have hfresh : ∀ n, i.returned? = some n → i.Returns n := fun n hn => .fresh (new_of_returned? hn)
  unfold observed at h
  split at h
  case h_2 => exact hfresh n h
  case h_1 method hmethod =>
    -- Two methods give the Intent itself or share its state, one gives an extra, and one only
    -- reports.
    cases method with
    | setClassName =>
      simp only [IntentMethod.observe, IntentMethod.setClass] at h
      split at h
      case h_1 activity intent htext hintent =>
        obtain ⟨hreceiver, hhead⟩ := receiver_eq_some hintent
        have hupdate : i.update? = some (.activity activity) := by
          rw [update?_eq, if_pos hreceiver, hmethod, htext, Option.map_some]
        split at h
        case h_1 result hresult =>
          cases h
          exact .sharing (new_of_returned? hresult) hupdate hhead
        case h_2 => exact hfresh n h
      case h_2 => exact hfresh n h
    | putExtra =>
      simp only [IntentMethod.observe, IntentMethod.addExtra] at h
      split at h
      case h_1 key intent htext hintent =>
        obtain ⟨hreceiver, hhead⟩ := receiver_eq_some hintent
        have hupdate : i.update? = some (.extra key (i.arguments[1]?.bind Value.payload?)) := by
          rw [update?_eq, if_pos hreceiver, hmethod, htext, Option.map_some]
        obtain ⟨_, -, rfl⟩ := Option.map_eq_some_iff.1 h
        exact .told hupdate hhead
      case h_2 => exact hfresh n h
    | getStringExtra =>
      simp only [IntentMethod.observe, IntentMethod.readExtra] at h
      split at h
      case h_1 result hresult =>
        cases h
        exact .extra _ (new_of_returned? hresult) hmethod
      case h_2 => exact hfresh n h
    | startActivity =>
      simp only [IntentMethod.observe, IntentMethod.start] at h
      split at h <;> exact hfresh n h

end Invocation

/-! ### All calls -/

namespace Call

/-- The taint of something new that is no result of a method. -/
inductive Lends (c : Call) : Taint → Prop
  | clean : Lends c .clean
  /-- An object is made from arguments. -/
  | joined : Lends c (joinTaint (c.args.drop 2))
  /-- An element is taken out of an array. -/
  | element {o : ObjectIdentity Note} (h : c.args.head?.bind Value.object? = some o) :
    Lends c o.taint

/-- What a call can say about its result. -/
inductive Gives (c : Call) : Behaviour → Note → Prop
  /-- It is new. -/
  | fresh {behaviour : Behaviour} {n : Note} {t : Taint} (h : n.Blank) (ht : c.Lends t) :
    Gives c behaviour (n.absorb t)
  /-- It is known about the first argument. -/
  | same {behaviour : Behaviour} {v : Value} {n : Note} (hv : c.args.head? = some v)
      (hn : n ∈ v.notes) : Gives c behaviour n
  /-- It is in a field of the first argument. -/
  | read {kind : Kind} {v v' : Value} {n : Note} {isStatic : Bool} {name : String}
      {type : JavaType} (hv : c.args.head? = some v)
      (hread : v.readField isStatic name type = some (n, v')) : Gives c (.getField kind isStatic) n
  /-- It is the result of a method. -/
  | returned {returns : Kind} {binding : Binding} {passing : Passing} {i : Invocation} {n : Note}
      (hi : c.invocation? binding = some i) (h : i.Returns n) :
    Gives c (.invoke returns binding passing) n

variable {c : Call} {behaviour : Behaviour} {n : Note}

/-- A blank note is new, with clean taint. -/
theorem Gives.blank (h : n.Blank) : c.Gives behaviour n := by
  rw [← n.absorb_clean]
  exact .fresh h .clean

/-- A note of a result that was looked up is one that was said about what was found. -/
theorem mem_returning?_map {α : Type} {found : Option α} {notes : α → List Note}
    (h : n ∈ (c.returning? (found.map notes)).notes) : ∃ a, found = some a ∧ n ∈ notes a := by
  cases found with
  | none => cases h
  | some a => exact ⟨a, rfl, h⟩

/-- A result that is made of nothing but what was looked up is new, for `Call.Gives`. -/
theorem gives_of_returning?_map {α : Type} {found : Option α} {notes : α → List Note}
    (hblank : ∀ a, ∀ n ∈ notes a, n.Blank) (h : n ∈ (c.returning? (found.map notes)).notes) :
    c.Gives behaviour n := by
  obtain ⟨a, -, hn⟩ := mem_returning?_map h
  exact .blank (hblank a n hn)

/-- `Call.getField` says about its result what a field of the first argument holds. -/
theorem mem_getField {isStatic : Bool} (h : n ∈ (c.getField isStatic).notes) :
    ∃ v v' name type, c.args.head? = some v ∧
      v.readField isStatic name type = some (n, v') := by
  unfold getField at h
  split at h
  case h_1 name type owner rest _ hargs =>
    split at h
    case h_1 value owner' hread =>
      obtain rfl := List.mem_singleton.1 h
      exact ⟨owner, owner', name, type, by rw [hargs]; rfl, hread⟩
    case h_2 => cases h
  case h_2 => cases h

theorem setField_notes (isStatic : Bool) : (c.setField isStatic).notes = [] := by
  unfold setField
  split
  · split
    · rfl
    · split <;> rfl
  · rfl

/-- `Call.invoke` says about its result what the method returns. -/
theorem mem_invoke {binding : Binding} (h : n ∈ (c.invoke binding).notes) :
    ∃ i, c.invocation? binding = some i ∧ i.Returns n := by
  unfold invoke at h
  split at h
  case h_1 => cases h
  case h_2 i hi => exact ⟨i, hi, Invocation.observed_returns (Option.mem_toList.1 h)⟩

/-- `Call.arrayElement` makes something blank and gives it the taint of the array. -/
theorem mem_arrayElement (h : n ∈ c.arrayElement.notes) :
    ∃ o m, c.args.head?.bind Value.object? = some o ∧ Note.Blank m ∧ n = m.absorb o.taint := by
  obtain ⟨o, ho, hn⟩ := mem_returning?_map h
  rw [arg?, ← List.head?_eq_getElem?] at ho
  exact ⟨o, _, ho, Note.blank_ofType _ _, List.mem_singleton.1 hn⟩

/-- `Call.newReference` says about its result what is known about the first argument. -/
theorem mem_newReference (h : n ∈ c.newReference.notes) :
    ∃ v, c.args.head? = some v ∧ n ∈ v.notes := by
  unfold newReference at h
  rw [arg?, ← List.head?_eq_getElem?] at h
  cases hv : c.args.head? with
  | none =>
    rw [hv] at h
    cases h
  | some v =>
    rw [hv] at h
    exact ⟨v, rfl, h⟩

end Call

/-- **All calls** say nothing about their results but what `Call.Gives` lists: one case for each
family of functions. -/
theorem Behaviour.effect_gives (behaviour : Behaviour) {c : Call} {n : Note}
    (h : n ∈ (behaviour.effect c).notes) : c.Gives behaviour n := by
  cases behaviour with
  | reserved | unconstrained | superclass | length => cases h
  | findClass | defineClass | objectClass =>
    refine Call.gives_of_returning?_map (fun name m hm => ?_) h
    obtain rfl := List.mem_singleton.1 hm
    exact Note.blank_of_taint? rfl rfl
  | allocObject =>
    refine Call.gives_of_returning?_map (fun name m hm => ?_) h
    obtain rfl := List.mem_singleton.1 hm
    exact Note.blank_ofType _ _
  | newObject =>
    obtain ⟨name, -, hn⟩ := Call.mem_returning?_map h
    rw [List.mem_singleton.1 hn]
    exact .fresh (Note.blank_ofType _ _) .joined
  | newReference =>
    obtain ⟨v, hv, hn⟩ := Call.mem_newReference h
    exact .same hv hn
  | methodId | fieldId | fromReflectedMethod | fromReflectedField | newStringUtf | newString =>
    refine Call.gives_of_returning?_map (fun found m hm => ?_) h
    obtain rfl := List.mem_singleton.1 hm
    exact Note.blank_of_taint? rfl rfl
  | toReflectedMethod | toReflectedField =>
    refine Call.gives_of_returning?_map (fun found m hm => ?_) h
    rcases List.mem_cons.1 hm with rfl | hm
    · exact Note.blank_ofType _ _
    · obtain rfl := List.mem_singleton.1 hm
      exact Note.blank_of_taint? rfl rfl
  | invoke returns binding passing =>
    obtain ⟨i, hi, hreturns⟩ := Call.mem_invoke h
    exact .returned hi hreturns
  | getField kind isStatic =>
    obtain ⟨v, v', name, type, hv, hread⟩ := Call.mem_getField h
    exact .read hv hread
  | setField kind isStatic =>
    rw [effect, Call.setField_notes] at h
    cases h
  | newObjectArray | newPrimitiveArray =>
    rw [List.mem_singleton.1 h]
    exact .blank (Note.blank_ofType _ _)
  | arrayElement =>
    obtain ⟨o, m, ho, hblank, rfl⟩ := Call.mem_arrayElement h
    exact .fresh hblank (.element ho)
  | storage =>
    simp only [effect, Call.storage] at h
    split at h <;> cases h
  | registerNatives =>
    simp only [effect, Call.registerNatives] at h
    split at h <;> cases h
  | unregisterNatives =>
    simp only [effect, Call.unregisterNatives] at h
    split at h <;> cases h

end NativeFlow
