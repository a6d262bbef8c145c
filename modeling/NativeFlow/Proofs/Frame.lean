import NativeFlow.Proofs.Fields
import NativeFlow.Proofs.WriteBack

namespace NativeFlow

/-!
# What calls leave as it is

A call changes little: at most its first argument, and in that at most one row of a field table or
the state of an Intent. So all else that is known about a value stays true for as long as the value
keeps its name.

* `Note.bare`: a note without what can change in it.
* `Value.Keeps`: a value has become another one with the same handle, width and bare notes.
* `Value.FieldChanged`, `Value.StateChanged`: the two kinds of change.
* `Behaviour.MayChange`: which of them a call can bring about, by its behaviour.
* `Behaviour.effect_frame`: a call brings about no other change.
* `Replay.keeps_of_run`: along a run, a name keeps its value up to such changes.
* `Replay.call_frame`: the two together.
-/

/-! ### Bare notes -/

/-- A note without field values and inter-component state. -/
def Note.bare : Note → Note
  | .classIdentity identity => .classIdentity { identity with fields := {} }
  | .object identity => .object { identity with fields := {}, icc := none }
  | other => other

/-- A value keeps its handle and its width, and of its notes their kinds and order and all but field
values and inter-component state: class name, source, Java type, taint, text, and the identities of
methods and fields. -/
structure Value.Keeps (v v' : Value) : Prop where
  handle : v'.handle = v.handle
  bits : v'.bits = v.bits
  notes : v'.notes.map Note.bare = v.notes.map Note.bare

namespace Value

/-- The fields of a value are changed in the row of one key at most. -/
def FieldChanged (isStatic : Bool) (key : FieldKey) (v v' : Value) : Prop :=
  ∃ fields fields', v.fields? isStatic = some fields ∧ fields.RowChanged key fields' ∧
    v' = v.setFields isStatic fields'

/-- The inter-component state of the object that a value refers to is changed. -/
def StateChanged (v v' : Value) : Prop :=
  ∃ o icc, v.object? = some o ∧ v' = v.setObject { o with icc }

namespace Keeps

variable {v v' v'' : Value}

theorem refl (v : Value) : v.Keeps v := ⟨rfl, rfl, rfl⟩

theorem trans (h : v.Keeps v') (h' : v'.Keeps v'') : v.Keeps v'' :=
  ⟨h'.handle.trans h.handle, h'.bits.trans h.bits, h'.notes.trans h.notes⟩

/-- Another object with the same bare note, in the place of the one that was there. -/
theorem setObject {o o' : ObjectIdentity Note} (ho : v.object? = some o)
    (hbare : (Note.object o').bare = (Note.object o).bare) : v.Keeps (v.setObject o') := by
  obtain ⟨before, after, hnotes, hset⟩ := notes_of_object? ho
  refine ⟨rfl, rfl, ?_⟩
  rw [hset, hnotes, List.map_append, List.map_append, List.map_cons, List.map_cons, hbare]

/-- The same for classes. -/
theorem setClass {k k' : ClassIdentity Note} (hk : v.class? = some k)
    (hbare : (Note.classIdentity k').bare = (Note.classIdentity k).bare) :
    v.Keeps (v.setClass k') := by
  obtain ⟨before, after, hnotes, hset⟩ := notes_of_class? hk
  refine ⟨rfl, rfl, ?_⟩
  rw [hset, hnotes, List.map_append, List.map_append, List.map_cons, List.map_cons, hbare]

/-- `Value.setFields` changes field values only, which no bare note shows. -/
theorem setFields (v : Value) (isStatic : Bool) (fields : FieldTable Note) :
    v.Keeps (v.setFields isStatic fields) := by
  unfold Value.setFields
  split
  case isTrue =>
    split
    case h_1 k hk => exact setClass hk rfl
    case h_2 => exact refl v
  case isFalse =>
    split
    case h_1 o ho => exact setObject ho rfl
    case h_2 => exact refl v

/-- What can be read off a bare note is the same before and after. -/
theorem findSome? {α : Type} (h : v.Keeps v') {read : Note → Option α}
    (hread : ∀ n, read n.bare = read n) : v'.notes.findSome? read = v.notes.findSome? read := by
  have hbare : read ∘ Note.bare = read := funext hread
  rw [← hbare, ← List.findSome?_map, ← List.findSome?_map, h.notes]

/-- What is read off an object, apart from its fields and its state, is the same before and after.
-/
theorem map_object? {α : Type} (h : v.Keeps v') {read : ObjectIdentity Note → α}
    (hread : ∀ o, read { o with fields := {}, icc := none } = read o) :
    v'.object?.map read = v.object?.map read := by
  simp only [object?, List.map_findSome?]
  refine h.findSome? fun n => ?_
  cases n with
  | object o => exact congrArg some (hread o)
  | _ => rfl

/-- So a value keeps its taint. -/
theorem taint? (h : v.Keeps v') : v'.taint? = v.taint? := by
  have hobject : v'.object?.map (·.taint) = v.object?.map (·.taint) := h.map_object? fun _ => rfl
  have hprimitive : v'.primitive? = v.primitive? := h.findSome? fun n => by cases n <;> rfl
  rw [Value.taint?, Value.taint?, hobject, hprimitive]

end Keeps

/-- A changed field leaves the bare notes as they are. -/
theorem FieldChanged.keeps {isStatic : Bool} {key : FieldKey} {v v' : Value}
    (h : FieldChanged isStatic key v v') : v.Keeps v' := by
  obtain ⟨fields, fields', -, -, rfl⟩ := h
  exact .setFields v isStatic fields'

/-- So does changed inter-component state. -/
theorem StateChanged.keeps {v v' : Value} (h : StateChanged v v') : v.Keeps v' := by
  obtain ⟨o, icc, ho, rfl⟩ := h
  exact .setObject ho rfl

/-! ### The two kinds of change -/

/-- `Value.readField` changes nothing where the field has a value, and else adds the row of the
field. -/
theorem fieldChanged_of_readField {v v' : Value} {isStatic : Bool} {name : String} {type : JavaType}
    {value : Note} (h : v.readField isStatic name type = some (value, v')) :
    v' = v ∨ FieldChanged isStatic (fieldKey name type) v v' := by
  rw [readField_eq] at h
  obtain ⟨fields, hfields, hread⟩ := Option.bind_eq_some_iff.1 h
  split at hread
  case h_1 =>
    cases hread
    exact .inl rfl
  case h_2 =>
    obtain ⟨made, -, heq⟩ := Option.map_eq_some_iff.1 hread
    cases heq
    exact .inr ⟨fields, _, hfields, fields.rowChanged_set _ _, rfl⟩

/-- `Value.writeField` changes the row of the field. -/
theorem fieldChanged_of_writeField {v v' : Value} {isStatic : Bool} {name : String}
    {type : JavaType} {value : Note} (h : v.writeField isStatic name type value = some v') :
    FieldChanged isStatic (fieldKey name type) v v' := by
  rw [writeField_eq] at h
  obtain ⟨fields, hfields, rfl⟩ := Option.map_eq_some_iff.1 h
  exact ⟨fields, _, hfields, fields.rowChanged_set _ _, rfl⟩

/-- `Value.tell` changes the state of an Intent, or nothing where there is no object. -/
theorem stateChanged_tell (v : Value) (update : IntentUpdate) :
    v.tell update = v ∨ StateChanged v (v.tell update) := by
  unfold tell
  split
  case h_1 o ho => exact .inr ⟨o, _, ho, rfl⟩
  case h_2 => exact .inl rfl

theorem keeps_tell (v : Value) (update : IntentUpdate) : v.Keeps (v.tell update) := by
  rcases v.stateChanged_tell update with hsame | hchanged
  · rw [hsame]
    exact .refl v
  · exact hchanged.keeps

end Value

/-! ### One call -/

/-- A method that tells its receiver something: one that sets the class of an Intent or puts an
extra into it, called on an object. -/
def Call.TellsReceiver (c : Call) (binding : Binding) : Prop :=
  binding.hasReceiver = true ∧
    ∃ m, (c.arg? binding.methodIndex).bind Value.method? = some m ∧ m.className = intentClass ∧
      (m.methodName = "setClassName" ∨ m.methodName = "putExtra")

/-- The changes of its first argument that a call can bring about. Field access changes the field
that its second argument identifies, method calls change the state of an Intent, and no other call
changes anything. -/
def Behaviour.MayChange (behaviour : Behaviour) (c : Call) (v v' : Value) : Prop :=
  match behaviour with
  | .getField _ isStatic | .setField _ isStatic =>
    ∃ name type, c.fieldArg? = some (name, type) ∧
      Value.FieldChanged isStatic (fieldKey name type) v v'
  | .invoke _ binding _ => c.TellsReceiver binding ∧ Value.StateChanged v v'
  | _ => False

/-- Whatever `Invocation.update?` tells is told by one of two methods, called on an object. -/
theorem Call.tellsReceiver_of_update? {c : Call} {binding : Binding} {i : Invocation}
    {update : IntentUpdate} (hi : c.invocation? binding = some i) (h : i.update? = some update) :
    c.TellsReceiver binding := by
  obtain ⟨m, hm, rfl⟩ := Option.map_eq_some_iff.1 hi
  unfold Invocation.update? at h
  split at h
  case isFalse => cases h
  case isTrue hreceiver =>
    refine ⟨hreceiver, m, hm, ?_⟩
    split at h
    case isTrue hname =>
      obtain ⟨hclass, hmethod⟩ := Prod.mk.inj hname
      exact ⟨hclass, .inl hmethod⟩
    case isFalse =>
      split at h
      case isTrue hname =>
        obtain ⟨hclass, hmethod⟩ := Prod.mk.inj hname
        exact ⟨hclass, .inr hmethod⟩
      case isFalse => cases h

namespace Behaviour

variable {behaviour : Behaviour} {c : Call} {v v' : Value}

/-- Whatever a call may change, the value keeps its handle, its width and its bare notes. -/
theorem MayChange.keeps (h : behaviour.MayChange c v v') : v.Keeps v' := by
  cases behaviour with
  | getField kind isStatic | setField kind isStatic =>
    obtain ⟨_, _, -, hchanged⟩ := h
    exact hchanged.keeps
  | invoke returns binding passing => exact h.2.keeps
  | _ => exact h.elim

/-- What `Call.Changes` does to the first argument is within what the behaviour allows. -/
theorem mayChange_of_changes (h : c.Changes behaviour v v') :
    v' = v ∨ behaviour.MayChange c v v' := by
  cases h with
  | read hfield hread =>
    exact (Value.fieldChanged_of_readField hread).imp_right fun h => ⟨_, _, hfield, h⟩
  | written hfield _ hwrite => exact .inr ⟨_, _, hfield, Value.fieldChanged_of_writeField hwrite⟩
  | told _ hi hupdate =>
    have htells := Call.tellsReceiver_of_update? hi hupdate
    exact (v.stateChanged_tell _).imp_right fun h => ⟨htells, h⟩

/-- **The frame of a call.** All arguments of `behaviour.effect` are what they were, or the first
one is changed in a way that `Behaviour.MayChange` allows. -/
theorem effect_frame (behaviour : Behaviour) (c : Call) :
    (behaviour.effect c).args = c.args ∨
      ∃ v v' rest, c.args = v :: rest ∧ (behaviour.effect c).args = v' :: rest ∧
        behaviour.MayChange c v v' := by
  have hchanged := behaviour.effect_changes c
  generalize c.args = args at hchanged ⊢
  generalize (behaviour.effect c).args = args' at hchanged ⊢
  cases hchanged with
  | nil => exact .inl rfl
  | same => exact .inl rfl
  | @cons v v' rest h =>
    rcases mayChange_of_changes h with rfl | hmay
    · exact .inl rfl
    · exact .inr ⟨v, v', rest, rfl, rfl, hmay⟩

/-- Every argument keeps what changes leave of it. -/
theorem effect_keeps (behaviour : Behaviour) (c : Call) :
    List.Forall₂ Value.Keeps c.args (behaviour.effect c).args := by
  have hrefl := List.forall₂_same.2 fun v (_ : v ∈ c.args) => Value.Keeps.refl v
  rcases behaviour.effect_frame c with hsame | ⟨v, v', rest, hargs, hargs', hmay⟩
  · rw [hsame]
    exact hrefl
  · rw [hargs] at hrefl
    rw [hargs, hargs']
    exact .cons hmay.keeps (List.forall₂_cons.1 hrefl).2

end Behaviour

/-! ### Whole runs -/

namespace Replay

variable {catalog : Catalog} {r r' : Replay} {name : String} {v : Value}

/-- `Replay.step` keeps the value of a name that the call does not bind, up to changes. -/
theorem keeps_of_step {call : RecordedCall} (h : r.step catalog call = .ok r')
    (hbinds : ¬ call.Binds name) (hv : r.bindings.find? name = some v) :
    ∃ v', r'.bindings.find? name = some v' ∧ v.Keeps v' := by
  rcases step_cases h with ⟨_, rfl⟩ | ⟨function, _, _, _, rfl⟩ | ⟨function, args, hmade, rfl⟩
  · exact ⟨v, hv, .refl v⟩
  · exact ⟨v, hv, .refl v⟩
  -- Only where the name is that of the first argument can its value have changed.
  · refine hmade.bound_kept hbinds hv (.refl v) fun v' rest hargs hargs' => ?_
    have hkeeps := function.behaviour.effect_keeps (r.view catalog args)
    rw [reply, Behaviour.reply_effect] at hargs'
    rw [hargs', show (r.view catalog args).args = v :: rest from hargs] at hkeeps
    exact (List.forall₂_cons.1 hkeeps).1

/-- Along a run, a name that no call binds keeps its value up to changes. -/
theorem keeps_of_run {calls : List RecordedCall} (h : r.run catalog calls = .ok r')
    (hbinds : ∀ call ∈ calls, ¬ call.Binds name) (hv : r.bindings.find? name = some v) :
    ∃ v', r'.bindings.find? name = some v' ∧ v.Keeps v' := by
  refine run_preserves (P := fun r => ∃ v', r.bindings.find? name = some v' ∧ v.Keeps v') ?_ h
    ⟨v, hv, .refl v⟩
  rintro r call hmem r' ⟨v₁, hv₁, hkeeps⟩ hstep
  obtain ⟨v₂, hv₂, hkeeps'⟩ := keeps_of_step hstep (hbinds call hmem) hv₁
  exact ⟨v₂, hv₂, hkeeps.trans hkeeps'⟩

/-- **The frame of every call.** A function that replies leaves as many arguments as it was given,
and changes none but the first. That one keeps its handle, its width and its bare notes; if it is
changed at all, it is in a way that the function's behaviour allows: a field access changes one row
of one table, a method call changes the state of an Intent that it tells something, and no other
function changes anything.

So over any run, a name that no call binds anew keeps a value with the same handle, width and bare
notes. -/
theorem call_frame :
    (∀ (f : Function) (c : Call) (reply : Reply), f.call c = .ok reply →
      reply.effect.args.length = c.args.length ∧
      (∀ index, index ≠ 0 → reply.effect.args[index]? = c.args[index]?) ∧
      ∀ v v', c.args[0]? = some v → reply.effect.args[0]? = some v' →
        v.Keeps v' ∧ (v' = v ∨ f.behaviour.MayChange c v v')) ∧
    ∀ (catalog : Catalog) (calls : List RecordedCall) (r r' : Replay) (name : String) (v : Value),
      r.run catalog calls = .ok r' → (∀ call ∈ calls, ¬ call.Binds name) →
      r.bindings.find? name = some v →
      ∃ v', r'.bindings.find? name = some v' ∧ v.Keeps v' := by
  constructor
  · intro f c reply hcall
    -- A function that is not reserved replies with the effect of its behaviour.
    have heffect : reply.effect = f.behaviour.effect c := by
      unfold Function.call at hcall
      split at hcall
      · cases hcall
      · cases hcall
        exact Behaviour.reply_effect _ _
    rw [heffect]
    rcases f.behaviour.effect_frame c with hsame | ⟨x, x', rest, hargs, hargs', hmay⟩
    · rw [hsame]
      refine ⟨rfl, fun _ _ => rfl, fun v v' hv hv' => ?_⟩
      obtain rfl : v = v' := Option.some.inj (hv.symm.trans hv')
      exact ⟨.refl v, .inl rfl⟩
    · rw [hargs, hargs']
      refine ⟨rfl, fun index hindex => ?_, fun v v' hv hv' => ?_⟩
      · obtain ⟨index, rfl⟩ := Nat.exists_eq_succ_of_ne_zero hindex
        rfl
      · cases hv
        cases hv'
        exact ⟨hmay.keeps, .inr hmay⟩
  · intro catalog calls r r' name v hrun hbinds hv
    exact keeps_of_run hrun hbinds hv

set_option maxRecDepth 20000 in
/-- An assignment to a field of an object changes the object, in a row of that field. The object
keeps its bare note, under its name too. -/
theorem call_frame_holder :
    ∃ r r' function args reply v v' w, holderTrace.replay {} = .ok r ∧
      r.Makes (assignField (.literal 5)) function args ∧
      function.call (r.view {} args) = .ok reply ∧ args[0]? = some v ∧
      reply.effect.args[0]? = some v' ∧ v' ≠ v ∧ v.Keeps v' ∧
      function.behaviour.MayChange (r.view {} args) v v' ∧
      r.run {} [assignField (.literal 5)] = .ok r' ∧
      r'.bindings.find? "holder" = some w ∧ v.Keeps w := by
  obtain ⟨r, r', function, args, reply, v, v', hr, hmade, hcall, hv, hv', hchanged, hrun, hbound⟩ :
      ∃ r r' function args reply v v', holderTrace.replay {} = .ok r ∧
        r.Makes (assignField (.literal 5)) function args ∧
        function.call (r.view {} args) = .ok reply ∧ args[0]? = some v ∧
        reply.effect.args[0]? = some v' ∧ v' ≠ v ∧
        r.run {} [assignField (.literal 5)] = .ok r' ∧ r.bindings.find? "holder" = some v :=
    ⟨_, _, _, _, _, _, _, rfl, ⟨rfl, rfl, by decide, rfl⟩, rfl, rfl, rfl,
      fun h => absurd (congrArg rowCount h) (by decide), rfl, rfl⟩
  obtain ⟨-, -, hframe⟩ := call_frame.1 function (r.view {} args) reply hcall
  obtain ⟨hkeeps, hmay⟩ := hframe v v' hv hv'
  have hbinds : ∀ call ∈ [assignField (.literal 5)], ¬ call.Binds "holder" := by
    intro call hmem hbinds
    rw [List.mem_singleton.1 hmem] at hbinds
    cases hbinds.1
  obtain ⟨w, hw, hkeeps'⟩ := call_frame.2 {} _ r r' "holder" v hrun hbinds hbound
  exact ⟨r, r', function, args, reply, v, v', w, hr, hmade, hcall, hv, hv', hchanged, hkeeps,
    hmay.resolve_left hchanged, hrun, hw, hkeeps'⟩

end Replay

end NativeFlow
