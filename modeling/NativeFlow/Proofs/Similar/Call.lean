import NativeFlow.Proofs.Effect
import NativeFlow.Proofs.Similar.Basic

namespace NativeFlow

/-!
# Calls with similar arguments

A function that is called twice with similar arguments does similar things: the taint of the
arguments decides about nothing but taint. There is one lemma for each family of functions, and
`TaintRelation.effect_similar` puts them together.

* `Call.Similar`, `Effect.Similar`, `Reply.Similar`: similar calls and what comes of them. Findings
  are left out: which there are depends on taint.
* `Catalog.Similar`: what is asked of two catalogs. A method call must return related taint under
  them.
* `TaintRelation.effect_similar`, `TaintRelation.reply_similar`: similar calls have similar effects
  and replies.
-/

variable {R : Taint → Taint → Prop}

/-- Invocations of the same method with similar arguments. -/
structure Invocation.Similar (R : Taint → Taint → Prop) (i i' : Invocation) : Prop where
  method : i.method = i'.method
  binding : i.binding = i'.binding
  args : List.Forall₂ (Value.Similar R) i.args i'.args

/-- Under the two catalogs, similar invocations return related taint. -/
def Catalog.Similar (R : Taint → Taint → Prop) (catalog catalog' : Catalog) : Prop :=
  ∀ i i' : Invocation, i.catalog = catalog → i'.catalog = catalog' → Invocation.Similar R i i' →
    R i.resultTaint i'.resultTaint

/-- Calls with similar arguments that see the same world, except for the catalog. -/
structure Call.Similar (R : Taint → Taint → Prop) (c c' : Call) : Prop where
  machine : c.machine = c'.machine
  catalog : Catalog.Similar R c.catalog c'.catalog
  natives : c.natives = c'.natives
  args : List.Forall₂ (Value.Similar R) c.args c'.args

/-- Effects that differ in nothing but taint and findings. -/
structure Effect.Similar (R : Taint → Taint → Prop) (e e' : Effect) : Prop where
  modeled : e.modeled = e'.modeled
  args : List.Forall₂ (Value.Similar R) e.args e'.args
  natives : e.natives = e'.natives
  notes : List.Forall₂ (Note.Similar R) e.notes e'.notes

/-- Replies that differ in nothing but taint and findings. -/
structure Reply.Similar (R : Taint → Taint → Prop) (reply reply' : Reply) : Prop where
  machine : reply.machine = reply'.machine
  effect : Effect.Similar R reply.effect reply'.effect
  value? : Option.Rel (Value.Similar R) reply.value? reply'.value?

namespace Call.Similar

variable {c c' : Call}

/-! ### Arguments -/

/-- Similar calls have as many arguments, and similar ones at each index. -/
theorem arg? (h : Call.Similar R c c') (index : Nat) :
    Option.Rel (Value.Similar R) (c.arg? index) (c'.arg? index) :=
  rel_getElem? h.args index

/-- A look-up that similar values agree on, at a position. -/
theorem arg?_bind (h : Call.Similar R c c') {α : Type} {f : Value → Option α}
    (hf : ∀ v v', Value.Similar R v v' → f v = f v') (index : Nat) :
    (c.arg? index).bind f = (c'.arg? index).bind f := by
  refine eq_of_rel (rel_bind (fun v v' hv => ?_) (h.arg? index))
  rw [hf v v' hv]
  exact rel_self (fun _ => rfl) _

/-- A text argument is read from memory at the handle, and similar values have the same handle. -/
theorem textArg? (h : Call.Similar R c c') (index : Nat) :
    c.textArg? index = c'.textArg? index := by
  unfold Call.textArg?
  rw [h.machine]
  exact h.arg?_bind (fun v v' hv => by rw [hv.handle]) index

theorem classArg? (h : Call.Similar R c c') (index : Nat) :
    c.classArg? index = c'.classArg? index :=
  h.arg?_bind (fun _ _ hv => hv.className?) index

/-! ### Results -/

/-- A call about which nothing can be said leaves its arguments as they are, so `Call.fallback`
keeps calls similar. -/
theorem fallback (h : Call.Similar R c c') : Effect.Similar R c.fallback c'.fallback :=
  ⟨rfl, h.args, h.natives, .nil⟩

/-- `Call.returning` with similar notes for the result. -/
theorem returning (h : Call.Similar R c c') {notes notes' : List Note}
    (hnotes : List.Forall₂ (Note.Similar R) notes notes') :
    Effect.Similar R (c.returning notes) (c'.returning notes') :=
  ⟨rfl, h.args, h.natives, hnotes⟩

/-- `Call.returning?`: the two calls fall back together or return similar notes. -/
theorem returning? (h : Call.Similar R c c') {notes? notes?' : Option (List Note)}
    (hnotes : Option.Rel (List.Forall₂ (Note.Similar R)) notes? notes?') :
    Effect.Similar R (c.returning? notes?) (c'.returning? notes?') := by
  cases hnotes with
  | some hnotes => exact h.returning hnotes
  | none => exact h.fallback

/-- The result of a function that says the same whenever its arguments are similar. -/
theorem returning?_map (h : Call.Similar R c c') {α : Type} {found found' : Option α}
    (hfound : found = found') {notes : α → List Note}
    (hnotes : ∀ a, List.Forall₂ (Note.Similar R) (notes a) (notes a)) :
    Effect.Similar R (c.returning? (found.map notes)) (c'.returning? (found'.map notes)) := by
  subst hfound
  exact h.returning? (rel_map (fun a b hab => hab ▸ hnotes a) (rel_self (fun _ => rfl) found))

/-! ### Classes, members and strings -/

theorem findClass (h : Call.Similar R c c') : Effect.Similar R c.findClass c'.findClass :=
  h.returning?_map (h.textArg? 0) fun name => .cons (.classIdentity (.mk name .nil)) .nil

/-- `GetObjectClass` looks at the literal and at the type of the object, neither of which is taint.
-/
theorem objectClass (h : Call.Similar R c c') : Effect.Similar R c.objectClass c'.objectClass := by
  refine h.returning?_map (h.arg?_bind (fun v v' hv => ?_) 0) fun name =>
    .cons (.classIdentity (.mk name .nil)) .nil
  unfold Value.classOf?
  rw [hv.literal?]
  refine eq_of_rel (rel_or (rel_map ?_ hv.object?) (rel_self (fun _ => rfl) _))
  rintro _ _ ⟨_, _, _, _, _⟩
  rfl

/-- The name, the descriptor and the class that `Call.member?` puts together are the same. -/
theorem member? (h : Call.Similar R c c') : c.member? = c'.member? := by
  unfold Call.member?
  rw [h.textArg? 1, h.textArg? 2, h.classArg? 0]

theorem methodId (h : Call.Similar R c c') : Effect.Similar R c.methodId c'.methodId :=
  h.returning?_map h.member? fun _ => .cons (.method _) .nil

theorem fieldId (h : Call.Similar R c c') : Effect.Similar R c.fieldId c'.fieldId :=
  h.returning?_map h.member? fun _ => .cons (.field _) .nil

theorem fromReflectedMethod (h : Call.Similar R c c') :
    Effect.Similar R c.fromReflectedMethod c'.fromReflectedMethod :=
  h.returning?_map (h.arg?_bind (fun _ _ hv => hv.method?) 0) fun _ => .cons (.method _) .nil

theorem fromReflectedField (h : Call.Similar R c c') :
    Effect.Similar R c.fromReflectedField c'.fromReflectedField :=
  h.returning?_map (h.arg?_bind (fun _ _ hv => hv.field?) 0) fun _ => .cons (.field _) .nil

theorem newStringUtf (h : Call.Similar R c c') :
    Effect.Similar R c.newStringUtf c'.newStringUtf :=
  h.returning?_map (h.textArg? 0) fun _ => .cons (.string _) .nil

/-- `Call.unitsText?` reads memory at the handle of its first argument, for as many units as the
handle of the second says. -/
theorem unitsText? (h : Call.Similar R c c') : c.unitsText? = c'.unitsText? := by
  have hargs := h.args
  unfold Call.unitsText?
  rw [h.machine]
  generalize c.args = args at hargs
  generalize c'.args = args' at hargs
  -- No arguments, one, or at least two: only in the last case is anything read.
  rcases hargs with _ | ⟨hstart, _ | ⟨hcount, _⟩⟩
  · rfl
  · rfl
  · simp only [hstart.handle, hcount.handle]

theorem newString (h : Call.Similar R c c') : Effect.Similar R c.newString c'.newString :=
  h.returning?_map h.unitsText? fun _ => .cons (.string _) .nil

/-! ### References and native methods -/

/-- A new reference is to a value with the notes of the argument. -/
theorem newReference (h : Call.Similar R c c') :
    Effect.Similar R c.newReference c'.newReference := by
  refine h.returning ?_
  have harg := h.arg? 0
  -- The notes are those of the argument, and there are none where it is missing.
  generalize c.arg? 0 = v? at harg
  generalize c'.arg? 0 = v?' at harg
  cases harg with
  | some hv => exact hv.notes
  | none => exact .nil

/-- `Call.storage` wants an argument and returns nothing that carries a note. -/
theorem storage (h : Call.Similar R c c') : Effect.Similar R c.storage c'.storage := by
  have hargs := h.args
  unfold Call.storage
  split <;> split <;> simp_all
  · exact h.fallback
  · exact h.returning .nil

/-- Only handles and the name of the class are looked at, and those are the same: the registration
does the same and reports the same. -/
theorem registerNatives_eq (h : Call.Similar R c c') :
    c.registerNatives = { c'.registerNatives with args := c.args } := by
  have hargs := h.args
  unfold Call.registerNatives Call.returning Call.fallback
  rw [h.machine, h.natives, h.classArg? 0]
  generalize c.args = args at hargs
  generalize c'.args = args' at hargs
  rcases hargs with _ | ⟨_, _ | ⟨hbase, _ | ⟨hcount, _⟩⟩⟩
  · rfl
  · rfl
  · rfl
  · simp only [hbase.handle, hcount.handle]

/-- `Call.registerNatives` keeps calls similar, by `registerNatives_eq`. -/
theorem registerNatives (h : Call.Similar R c c') :
    Effect.Similar R c.registerNatives c'.registerNatives := by
  have hnotes : c'.registerNatives.notes = [] := by
    unfold Call.registerNatives
    split <;> rfl
  rw [h.registerNatives_eq]
  refine ⟨rfl, ?_, rfl, ?_⟩
  · rw [c'.registerNatives_args]
    exact h.args
  · rw [hnotes]
    exact .nil

/-- `Call.unregisterNatives` drops the same class from the same registry. -/
theorem unregisterNatives (h : Call.Similar R c c') :
    Effect.Similar R c.unregisterNatives c'.unregisterNatives := by
  unfold Call.unregisterNatives
  rw [h.classArg? 0]
  split
  · exact ⟨rfl, h.args, by rw [h.natives], .nil⟩
  · exact h.fallback

end Call.Similar

/-! ### Method calls -/

/-- Observations that differ in nothing but taint and findings. -/
structure Observation.Similar (R : Taint → Taint → Prop) (o o' : Observation) : Prop where
  args : List.Forall₂ (Value.Similar R) o.args o'.args
  returned? : Option.Rel (Note.Similar R) o.returned? o'.returned?

/-- `Observation.setReceiver` writes to the first argument, if there is one. -/
theorem Observation.Similar.setReceiver {o o' : Observation} (h : Observation.Similar R o o')
    {identity identity' : ObjectIdentity Note}
    (hidentity : ObjectIdentity.Similar R (Note.Similar R) identity identity') :
    Observation.Similar R (o.setReceiver identity) (o'.setReceiver identity') := by
  obtain ⟨args, returned?, findings⟩ := o
  obtain ⟨args', returned?', findings'⟩ := o'
  refine ⟨?_, h.returned?⟩
  have hargs : List.Forall₂ (Value.Similar R) args args' := h.args
  cases hargs with
  | nil => exact .nil
  | cons hv hrest => exact .cons (hv.setObject hidentity) hrest

namespace Invocation.Similar

variable {i i' : Invocation}

/-- A call with a receiver has a similar one, and a static call has none in both. -/
theorem receiver? (h : Invocation.Similar R i i') :
    Option.Rel (Value.Similar R) i.receiver? i'.receiver? := by
  unfold Invocation.receiver?
  rw [h.binding]
  split
  · exact rel_head? h.args
  · exact .none

theorem receiverObject (h : Invocation.Similar R i i') :
    Option.Rel (ObjectIdentity.Similar R (Note.Similar R)) (i.receiver?.bind Value.object?)
      (i'.receiver?.bind Value.object?) :=
  rel_bind (fun _ _ hv => hv.object?) h.receiver?

/-- What is left after the receiver and the method is similar too: `Invocation.arguments` drops as
many in both. -/
theorem arguments (h : Invocation.Similar R i i') :
    List.Forall₂ (Value.Similar R) i.arguments i'.arguments := by
  unfold Invocation.arguments
  rw [h.binding]
  exact List.forall₂_drop _ h.args

/-- The literals among the arguments of similar invocations are the same. -/
theorem text? (h : Invocation.Similar R i i') (index : Nat) : i.text? index = i'.text? index := by
  have hliteral : i.arguments[index]?.bind Value.literal? =
      i'.arguments[index]?.bind Value.literal? := by
    refine eq_of_rel (rel_bind (fun v v' hv => ?_) (rel_getElem? h.arguments index))
    rw [hv.literal?]
    exact rel_self (fun _ => rfl) _
  unfold Invocation.text?
  rw [hliteral]

/-- The result of a method call: its type is that of the descriptor, and its taint is what the two
catalogs say, related by `hcatalog`. -/
theorem returned? (hR : TaintRelation R) (h : Invocation.Similar R i i')
    (hcatalog : Catalog.Similar R i.catalog i'.catalog) :
    Option.Rel (Note.Similar R) i.returned? i'.returned? := by
  have htaint : R i.resultTaint i'.resultTaint := hcatalog i i' rfl rfl h
  have hprovenance : i.provenance = i'.provenance := by
    unfold Invocation.provenance
    rw [h.binding]
  unfold Invocation.returned?
  rw [h.method, hprovenance]
  split
  case h_1 signature _ =>
    refine rel_map ?_ (hR.note? signature.returns i'.provenance)
    intro n n' hn
    exact hR.note_absorb hn htaint
  case h_2 => exact .none

end Invocation.Similar

namespace IccState.Similar

variable {S : Note → Note → Prop} {icc icc' : IccState Note}

/-- An object without inter-component state gets the empty one, on both sides. -/
theorem getD {icc? icc?' : Option (IccState Note)}
    (h : Option.Rel (IccState.Similar S) icc? icc?') :
    IccState.Similar S (icc?.getD {}) (icc?'.getD {}) := by
  cases h with
  | some h => exact h
  | none => exact .mk _ _ .nil

/-- Naming the activity leaves the extras as they are. -/
theorem setActivity (h : IccState.Similar S icc icc') (activity : String) :
    IccState.Similar S { icc with isIcc := true, activityName := some activity }
      { icc' with isIcc := true, activityName := some activity } := by
  obtain ⟨_, _, hextras⟩ := h
  exact .mk _ _ hextras

/-- An extra put under `key` replaces the one that was there, on both sides. -/
theorem addExtra (h : IccState.Similar S icc icc') (key : String) {extra extra' : Option Note}
    (hextra : Option.Rel S extra extra') :
    IccState.Similar S { icc with extras := Assoc.insert key extra icc.extras }
      { icc' with extras := Assoc.insert key extra' icc'.extras } := by
  obtain ⟨_, _, hextras⟩ := h
  exact .mk _ _ (rel_insert hextras key hextra)

end IccState.Similar

namespace Observation.Similar

variable {i i' : Invocation} {o o' : Observation}

/-- `Intent.setClassName` keeps observations similar: `IntentMethod.setClass` writes to the
receiver, and to the result where this is an object. -/
theorem setClass (hi : Invocation.Similar R i i') (h : Observation.Similar R o o') :
    Observation.Similar R (IntentMethod.setClass i o) (IntentMethod.setClass i' o') := by
  have hobject := hi.receiverObject
  unfold IntentMethod.setClass
  rw [hi.text? 1]
  generalize i.receiver?.bind Value.object? = intent? at hobject
  generalize i'.receiver?.bind Value.object? = intent?' at hobject
  -- Without a text or without an object nothing happens in either call.
  cases i'.text? 1 with
  | none => exact h
  | some activity =>
    cases hobject with
    | none => exact h
    | some hintent =>
      obtain ⟨source, javaType, hrows, htaint, hicc⟩ := hintent
      -- The state that the receiver and the result share.
      have hstate := (IccState.Similar.getD hicc).setActivity activity
      have hset := h.setReceiver (.mk source javaType hrows htaint (.some hstate))
      obtain ⟨args, returned?, findings⟩ := o
      obtain ⟨args', returned?', findings'⟩ := o'
      have hreturned : Option.Rel (Note.Similar R) returned? returned?' := h.returned?
      cases hreturned with
      | none => exact hset
      | some hnote =>
        cases hnote with
        | object hresult =>
          obtain ⟨source, javaType, hrows, htaint, _⟩ := hresult
          exact ⟨hset.args, .some (.object (.mk source javaType hrows htaint (.some hstate)))⟩
        | _ => exact hset

/-- `Intent.putExtra` keeps observations similar: the extra is what `Value.payload?` gives of the
argument. -/
theorem addExtra (hi : Invocation.Similar R i i') (h : Observation.Similar R o o') :
    Observation.Similar R (IntentMethod.addExtra i o) (IntentMethod.addExtra i' o') := by
  have hobject := hi.receiverObject
  unfold IntentMethod.addExtra
  rw [hi.text? 0]
  generalize i.receiver?.bind Value.object? = intent? at hobject
  generalize i'.receiver?.bind Value.object? = intent?' at hobject
  cases i'.text? 0 with
  | none => exact h
  | some key =>
    cases hobject with
    | none => exact h
    | some hintent =>
      obtain ⟨source, javaType, hrows, htaint, hicc⟩ := hintent
      have hextra := rel_bind (fun _ _ hv => Value.Similar.payload? hv)
        (rel_getElem? hi.arguments 1)
      have hstate := (IccState.Similar.getD hicc).addExtra key hextra
      -- The receiver and the result are the same object, whatever the descriptor says.
      have hintent' := ObjectIdentity.Similar.mk source javaType hrows htaint (.some hstate)
      exact ⟨(h.setReceiver hintent').args, rel_map (fun _ _ _ => .object hintent') h.returned?⟩

/-- `Intent.getStringExtra` keeps observations similar: the taint joined to the result is a
constant, and `R` is reflexive. -/
theorem readExtra (hR : TaintRelation R) (hi : Invocation.Similar R i i')
    (h : Observation.Similar R o o') :
    Observation.Similar R (IntentMethod.readExtra i o) (IntentMethod.readExtra i' o') := by
  obtain ⟨args, returned?, findings⟩ := o
  obtain ⟨args', returned?', findings'⟩ := o'
  have hreturned : Option.Rel (Note.Similar R) returned? returned?' := h.returned?
  unfold IntentMethod.readExtra
  rw [hi.text? 0]
  cases hreturned with
  | none => exact h
  | some hnote =>
    cases hnote with
    | object hresult =>
      obtain ⟨source, javaType, hrows, htaint, _⟩ := hresult
      have hjoined := hR.absorb htaint (hR.refl (Taint.of .api [sensitiveInfo]))
      refine ⟨h.args, .some (.object (.mk source javaType hrows hjoined (.some (.mk _ _ ?_))))⟩
      cases i'.text? 0 with
      | some key => exact .cons ⟨key, .none⟩ .nil
      | none => exact .nil
    | _ => exact h

/-- `startActivity` changes nothing but the findings, which similarity leaves out. -/
theorem start (h : Observation.Similar R o o') :
    Observation.Similar R (IntentMethod.start i o) (IntentMethod.start i' o') := by
  unfold IntentMethod.start
  split <;> split <;> exact ⟨h.args, h.returned?⟩

end Observation.Similar

namespace TaintRelation

variable (hR : TaintRelation R) {c c' : Call}

include hR

/-! ### Objects and arrays -/

/-- The join of the taint of similar values is related: a fold of `Taint.absorb` over related lists.
-/
theorem joinTaint {values values' : List Value}
    (h : List.Forall₂ (Value.Similar R) values values') :
    R (NativeFlow.joinTaint values) (NativeFlow.joinTaint values') := by
  have htaints : List.Forall₂ R (values.filterMap Value.taint?) (values'.filterMap Value.taint?) :=
    List.rel_filterMap (fun _ _ hv => Value.Similar.taint? hv) h
  refine List.rel_foldl ?_ (hR.refl .clean) htaints
  intro t t' ht s s' hs
  exact hR.absorb ht hs

/-- The note of a fresh native object is similar to itself. -/
theorem ofObject (javaType : String) :
    Note.Similar R (.ofObject javaType) (.ofObject javaType) :=
  .object (hR.ofType .native javaType)

/-- The two notes of a reflected member are similar to themselves: neither depends on the arguments.
-/
theorem reflected (javaType : String) {identity : Note} (h : Note.Similar R identity identity) :
    List.Forall₂ (Note.Similar R) (Call.reflected javaType identity)
      (Call.reflected javaType identity) :=
  .cons (.object (hR.ofType .reflectionCall javaType)) (.cons h .nil)

/-- `Call.newObject`: the taint of the new object is the join of that of the arguments of the
constructor. -/
theorem newObject (h : Call.Similar R c c') : Effect.Similar R c.newObject c'.newObject := by
  have htaint := hR.joinTaint (List.forall₂_drop 2 h.args)
  unfold Call.newObject
  rw [h.classArg? 0]
  refine h.returning? ?_
  cases c'.classArg? 0 with
  | some name => exact .some (.cons (hR.note_absorb (hR.ofObject name) htaint) .nil)
  | none => exact .none

/-- `Call.arrayElement`: the element is of the element type and takes the taint of the array. -/
theorem arrayElement (h : Call.Similar R c c') :
    Effect.Similar R c.arrayElement c'.arrayElement := by
  refine h.returning? (rel_map ?_ (rel_bind (fun _ _ hv => Value.Similar.object? hv) (h.arg? 0)))
  rintro _ _ ⟨source, javaType, _, htaint, _⟩
  exact .cons (hR.note_absorb (.object (hR.ofType source _)) htaint) .nil

/-! ### Fields -/

omit hR in
/-- The field that a call names is an identity, which carries no taint. -/
theorem fieldArg? (h : Call.Similar R c c') : c.fieldArg? = c'.fieldArg? := by
  unfold Call.fieldArg?
  rw [h.arg?_bind (fun _ _ hv => Value.Similar.field? hv) 1]

/-- `Call.getField`: both calls fall back, or both read similar notes and leave similar owners
behind. -/
theorem getField (h : Call.Similar R c c') (isStatic : Bool) :
    Effect.Similar R (c.getField isStatic) (c'.getField isStatic) := by
  have hargs := h.args
  unfold Call.getField
  rw [fieldArg? h]
  generalize c.args = args at hargs
  generalize c'.args = args' at hargs
  cases c'.fieldArg? with
  | none => exact h.fallback
  | some field =>
    obtain ⟨name, type⟩ := field
    -- The owner is the first argument; a call without arguments falls back.
    rcases hargs with _ | @⟨owner, owner', rest, rest', howner, hrest⟩
    · exact h.fallback
    · have hread := hR.readField howner isStatic name type
      dsimp only
      generalize owner.readField isStatic name type = read at hread
      generalize owner'.readField isStatic name type = read' at hread
      cases hread with
      | none => exact h.fallback
      | some hread => exact ⟨rfl, .cons hread.2 hrest, h.natives, .cons hread.1 .nil⟩

/-- What a call stores in a field: the payload of its third argument, or else a fresh note of the
type. -/
theorem storedArg? (h : Call.Similar R c c') (type : JavaType) :
    Option.Rel (Note.Similar R) (c.storedArg? type) (c'.storedArg? type) :=
  rel_or (rel_bind (fun _ _ hv => Value.Similar.payload? hv) (h.arg? 2)) (hR.note? type .native)

/-- `Call.setField`: both calls fall back, or both write similar notes to similar owners. -/
theorem setField (h : Call.Similar R c c') (isStatic : Bool) :
    Effect.Similar R (c.setField isStatic) (c'.setField isStatic) := by
  have hargs := h.args
  unfold Call.setField
  rw [fieldArg? h]
  generalize c.args = args at hargs
  generalize c'.args = args' at hargs
  cases c'.fieldArg? with
  | none => exact h.fallback
  | some field =>
    obtain ⟨name, type⟩ := field
    rcases hargs with _ | @⟨owner, owner', rest, rest', howner, hrest⟩
    · exact h.fallback
    · have hstored := hR.storedArg? h type
      dsimp only
      generalize c.storedArg? type = stored at hstored
      generalize c'.storedArg? type = stored' at hstored
      -- A field of type void may leave nothing to store: the call returns and writes nothing.
      rcases hstored with @⟨value, value', hvalue⟩ | _
      · have hwritten := howner.writeField isStatic name type hvalue
        dsimp only
        generalize owner.writeField isStatic name type value = written at hwritten
        generalize owner'.writeField isStatic name type value' = written' at hwritten
        cases hwritten with
        | none => exact h.fallback
        | some howner => exact ⟨rfl, .cons howner hrest, h.natives, .nil⟩
      · exact h.returning .nil

/-! ### All functions -/

/-- **Method calls.** What comes of similar invocations is similar. The four methods of
`IntentMethod` are looked at one by one; any other method is what its descriptor and the catalog
say. -/
theorem observed {i i' : Invocation} (h : Invocation.Similar R i i')
    (hcatalog : Catalog.Similar R i.catalog i'.catalog) :
    Observation.Similar R i.observed i'.observed := by
  -- What the descriptor and the catalog say, before Intents are looked at.
  have hplain : Observation.Similar R { args := i.args, returned? := i.returned? }
      { args := i'.args, returned? := i'.returned? } := ⟨h.args, h.returned? hR hcatalog⟩
  unfold Invocation.observed
  rw [h.method]
  cases IntentMethod.of? i'.method with
  | none => exact hplain
  | some m =>
    cases m with
    | setClassName => exact .setClass h hplain
    | putExtra => exact .addExtra h hplain
    | getStringExtra => exact .readExtra hR h hplain
    | startActivity => exact .start hplain

/-- `Call.invoke`: the method to be called is the same in both, so they fall back together or are
similar invocations, for `observed`. -/
theorem invoke (h : Call.Similar R c c') (binding : Binding) :
    Effect.Similar R (c.invoke binding) (c'.invoke binding) := by
  have hmethod := h.arg?_bind (fun _ _ hv => Value.Similar.method? hv) binding.methodIndex
  unfold Call.invoke Call.invocation?
  rw [hmethod]
  cases (c'.arg? binding.methodIndex).bind Value.method? with
  | none => exact h.fallback
  | some method =>
    have hsimilar : Invocation.Similar R ⟨method, binding, c.args, c.catalog⟩
        ⟨method, binding, c'.args, c'.catalog⟩ := ⟨rfl, rfl, h.args⟩
    have hobserved := hR.observed hsimilar h.catalog
    exact ⟨rfl, hobserved.args, h.natives, rel_toList hobserved.returned?⟩

/-- **Similar calls have similar effects.** -/
theorem effect_similar (h : Call.Similar R c c') (behaviour : Behaviour) :
    Effect.Similar R (behaviour.effect c) (behaviour.effect c') := by
  -- One case for each family of functions. What the taint of an argument decides is left to the
  -- lemma of the family.
  cases behaviour with
  | reserved | unconstrained kind => exact h.fallback
  | findClass | defineClass => exact h.findClass
  | objectClass => exact h.objectClass
  | superclass | length => exact h.returning .nil
  | allocObject => exact h.returning?_map (h.classArg? 0) fun name => .cons (hR.ofObject name) .nil
  | newObject => exact hR.newObject h
  | newReference => exact h.newReference
  | methodId isStatic => exact h.methodId
  | fieldId isStatic => exact h.fieldId
  | toReflectedMethod =>
    exact h.returning?_map (h.arg?_bind (fun _ _ hv => hv.method?) 1) fun m =>
      hR.reflected methodClass (.method m)
  | toReflectedField =>
    exact h.returning?_map (h.arg?_bind (fun _ _ hv => hv.field?) 1) fun f =>
      hR.reflected fieldClass (.field f)
  | fromReflectedMethod => exact h.fromReflectedMethod
  | fromReflectedField => exact h.fromReflectedField
  | invoke returns binding passing => exact hR.invoke h binding
  | getField kind isStatic => exact hR.getField h isStatic
  | setField kind isStatic => exact hR.setField h isStatic
  | newStringUtf => exact h.newStringUtf
  | newString => exact h.newString
  | storage => exact h.storage
  | newObjectArray =>
    refine h.returning ?_
    rw [h.classArg? 1]
    exact .cons (hR.ofObject _) .nil
  | newPrimitiveArray element => exact h.returning (.cons (hR.ofObject _) .nil)
  | arrayElement => exact hR.arrayElement h
  | registerNatives => exact h.registerNatives
  | unregisterNatives => exact h.unregisterNatives

/-- **Similar calls have similar replies**, with the same handle for the result. -/
theorem reply_similar (h : Call.Similar R c c') (behaviour : Behaviour) :
    Reply.Similar R (behaviour.reply c) (behaviour.reply c') := by
  have heffect := hR.effect_similar h behaviour
  -- What is passed on is the first argument; a new value gets the same handle in both.
  have hpassed : Option.Rel (Value.Similar R) (behaviour.passedOn? c.args)
      (behaviour.passedOn? c'.args) := by
    unfold Behaviour.passedOn?
    split
    · exact rel_head? h.args
    · exact .none
  unfold Behaviour.reply
  rw [h.machine]
  generalize behaviour.passedOn? c.args = passed at hpassed
  generalize behaviour.passedOn? c'.args = passed' at hpassed
  cases hpassed with
  | some hv => exact ⟨rfl, heffect, .some hv⟩
  | none =>
    dsimp only
    split
    · exact ⟨rfl, heffect, .none⟩
    · exact ⟨rfl, heffect, .some ⟨rfl, rfl, heffect.notes⟩⟩

end TaintRelation

end NativeFlow
