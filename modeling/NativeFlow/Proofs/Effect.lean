import NativeFlow.Call.Reply
import NativeFlow.Proofs.Value

namespace NativeFlow

/-!
# What calls do to their arguments

A call changes its first argument at most: a field access may change a field of it, and a method
call may tell an Intent something. All other arguments stay as they are.

* `IntentUpdate`, `IccState.tell`: what an Intent can be told, and what becomes of its state.
* `Invocation.update?`: what a method call tells its receiver, by its method and its texts.
* `Call.invoke_args`: a method call does that to its receiver and nothing else to its arguments.
* `Behaviour.effect_changes`: all that any call can do to its arguments. `Behaviour.effect_touches`
  is the same without the fields' names.
* `Value.Touched.icc?`: what becomes of the state of an Intent that is the first argument of a call.
-/

/-! ### Telling an Intent something -/

/-- Something that an Intent is told. -/
inductive IntentUpdate where
  /-- The activity that it is meant for. -/
  | activity (name : String)
  /-- A value that goes with it. -/
  | extra (key : String) (value : Option Note)

/-- The state of an Intent that has been told something. -/
def IccState.tell (icc : IccState Note) : IntentUpdate → IccState Note
  | .activity name => { icc with isIcc := true, activityName := some name }
  | .extra key value => { icc with extras := Assoc.insert key value icc.extras }

/-- An extra of `icc.tell update` was there before, or `update` has just put it there. -/
theorem IccState.mem_extras_tell {icc : IccState Note} {update : IntentUpdate}
    {extra : String × Option Note} (h : extra ∈ (icc.tell update).extras) :
    extra ∈ icc.extras ∨ update = .extra extra.1 extra.2 := by
  cases update with
  | activity name => exact .inl h
  | extra key value =>
    rcases Assoc.mem_insert_fst h with rfl | hold
    · exact .inr rfl
    · exact .inl hold

/-- The object `o` after `update`. One without inter-component state starts with the empty one. -/
def ObjectIdentity.tell (o : ObjectIdentity Note) (update : IntentUpdate) : ObjectIdentity Note :=
  { o with icc := some ((o.icc.getD {}).tell update) }

/-- The value `v` after its object, if it has one, has been told `update`. -/
def Value.tell (v : Value) (update : IntentUpdate) : Value :=
  match v.object? with
  | some o => v.setObject (o.tell update)
  | none => v

/-- A note of `v.tell update` is the object of `v` with the news, or one of the notes of `v`. -/
theorem Value.mem_tell {v : Value} {update : IntentUpdate} {n : Note}
    (h : n ∈ (v.tell update).notes) :
    (∃ o, v.object? = some o ∧ n = .object (o.tell update)) ∨ n ∈ v.notes := by
  unfold tell at h
  split at h
  case h_1 o ho => exact (mem_attach h).imp_left fun heq => ⟨o, ho, heq⟩
  case h_2 => exact .inr h

/-- What a method call tells the object it is called on: `setClassName` tells it the activity that
the second argument names, `putExtra` the extra that the first argument names and the second one
gives. A call without a receiver tells nothing. -/
def Invocation.update? (i : Invocation) : Option IntentUpdate :=
  if i.binding.hasReceiver then
    if (i.method.className, i.method.methodName) = (intentClass, "setClassName") then
      (i.text? 1).map .activity
    else if (i.method.className, i.method.methodName) = (intentClass, "putExtra") then
      (i.text? 0).map fun key => .extra key (i.arguments[1]?.bind Value.payload?)
    else none
  else none

/-- The arguments `args` after the first of them has been told `update?`, if that is something. -/
def tellHead (args : List Value) : Option IntentUpdate → List Value
  | some update => args.modifyHead (·.tell update)
  | none => args

/-- Where the first value refers to `intent`, writing `intent.tell update` into it is the same as
`Value.tell`. -/
theorem modifyHead_setObject_tell {args : List Value} {intent : ObjectIdentity Note}
    (h : args.head?.bind Value.object? = some intent) (update : IntentUpdate) :
    args.modifyHead (·.setObject (intent.tell update)) = args.modifyHead (·.tell update) := by
  cases args with
  | nil => rfl
  | cons v rest =>
    have hv : v.object? = some intent := by simpa using h
    simp [Value.tell, hv]

/-- Where the first value refers to no object, `Value.tell` leaves it as it is. -/
theorem modifyHead_tell_of_none {args : List Value} (h : args.head?.bind Value.object? = none)
    (update : IntentUpdate) : args.modifyHead (·.tell update) = args := by
  cases args with
  | nil => rfl
  | cons v rest =>
    have hv : v.object? = none := by simpa using h
    simp [Value.tell, hv]

/-! ### Method calls -/

namespace IntentMethod

/-- `IntentMethod.of?` recognizes a method by its class and its name alone, and the four identities
differ. -/
theorem of?_eq_some_iff {m : MethodIdentity} {k : IntentMethod} :
    of? m = some k ↔ k.identity = (m.className, m.methodName) := by
  constructor
  · intro h
    simpa using List.find?_some h
  · intro h
    unfold of?
    rw [← h]
    cases k <;> rfl

variable {i : Invocation} {o : Observation}

/-- The object behind `Invocation.receiver?` is that of the first argument where the binding has a
receiver. -/
theorem receiver?_bind_object? (i : Invocation) :
    i.receiver?.bind Value.object? =
      if i.binding.hasReceiver then i.args.head?.bind Value.object? else none := by
  unfold Invocation.receiver?
  split <;> rfl

/-- The shape that `setClass_args` and `addExtra_args` share. A method that needs the text `text?`
and the object of its receiver tells that object `update text`, and does nothing where one of the
two is missing. -/
theorem args_eq_tellHead {text? : Option String} {update : String → IntentUpdate}
    {args : List Value}
    (hsome : ∀ text intent, text? = some text → i.receiver?.bind Value.object? = some intent →
      args = i.args.modifyHead (·.setObject (intent.tell (update text))))
    (hnone : (∀ text intent, text? = some text → i.receiver?.bind Value.object? ≠ some intent) →
      args = i.args) :
    args = if i.binding.hasReceiver then tellHead i.args (text?.map update) else i.args := by
  have hrec := receiver?_bind_object? i
  cases text? with
  | none => simp [hnone, tellHead]
  | some text =>
    -- Telling a value without an object something leaves it as it is, so both sides agree there.
    cases hintent : i.receiver?.bind Value.object? with
    | none =>
      rw [hnone (by simp [hintent])]
      split
      case isTrue h =>
        rw [if_pos h, hintent] at hrec
        exact (modifyHead_tell_of_none hrec.symm _).symm
      case isFalse => rfl
    | some intent =>
      split
      case isTrue h =>
        rw [if_pos h, hintent] at hrec
        rw [hsome text intent rfl hintent, modifyHead_setObject_tell hrec.symm]
        rfl
      case isFalse h =>
        rw [if_neg h, hintent] at hrec
        cases hrec

/-- `IntentMethod.setClass` tells the receiver the activity that the second argument spells. -/
theorem setClass_args (ho : o.args = i.args) :
    (setClass i o).args =
      if i.binding.hasReceiver then tellHead i.args ((i.text? 1).map .activity) else i.args := by
  apply args_eq_tellHead
  · intro activity intent htext hintent
    simp only [setClass, htext, hintent, Observation.setReceiver, ho]
    split <;> rfl
  · intro hnone
    unfold setClass
    split
    case h_1 activity intent htext hintent => exact absurd hintent (hnone activity intent htext)
    case h_2 => exact ho

/-- `IntentMethod.addExtra` tells the receiver the extra: its key is the first argument, its value
the payload of the second. -/
theorem addExtra_args (ho : o.args = i.args) :
    (addExtra i o).args =
      if i.binding.hasReceiver then
        tellHead i.args
          ((i.text? 0).map fun key => .extra key (i.arguments[1]?.bind Value.payload?))
      else i.args := by
  apply args_eq_tellHead
  · intro key intent htext hintent
    simp only [addExtra, htext, hintent, Observation.setReceiver, ho]
    rfl
  · intro hnone
    unfold addExtra
    split
    case h_1 key intent htext hintent => exact absurd hintent (hnone key intent htext)
    case h_2 => exact ho

theorem readExtra_args (i : Invocation) (o : Observation) : (readExtra i o).args = o.args := by
  unfold readExtra
  split <;> rfl

theorem start_args (i : Invocation) (o : Observation) : (start i o).args = o.args := by
  unfold start
  split <;> rfl

end IntentMethod

namespace Invocation

/-- `Invocation.update?` by `IntentMethod.of?`, which is how `Invocation.observed` looks at a
method. -/
theorem update?_eq (i : Invocation) :
    i.update? =
      if i.binding.hasReceiver then
        match IntentMethod.of? i.method with
        | some .setClassName => (i.text? 1).map .activity
        | some .putExtra =>
          (i.text? 0).map fun key => .extra key (i.arguments[1]?.bind Value.payload?)
        | _ => none
      else none := by
  unfold update?
  cases hk : IntentMethod.of? i.method with
  | none =>
    -- No identity of `IntentMethod` is that of the method, so neither comparison of names holds.
    have hne : ∀ k : IntentMethod, (i.method.className, i.method.methodName) ≠ k.identity := by
      intro k h
      rw [IntentMethod.of?_eq_some_iff.2 h.symm] at hk
      cases hk
    have hset : _ ≠ (intentClass, "setClassName") := hne .setClassName
    have hput : _ ≠ (intentClass, "putExtra") := hne .putExtra
    rw [if_neg hset, if_neg hput]
  | some k =>
    rw [← IntentMethod.of?_eq_some_iff.1 hk]
    cases k <;> rfl

/-- An object behind `Invocation.receiver?` is that of the first argument, and the binding has a
receiver. -/
theorem receiver_eq_some {i : Invocation} {intent : ObjectIdentity Note}
    (h : i.receiver?.bind Value.object? = some intent) :
    i.binding.hasReceiver = true ∧ i.args.head?.bind Value.object? = some intent := by
  rw [IntentMethod.receiver?_bind_object?] at h
  split at h
  case isTrue hreceiver => exact ⟨hreceiver, h⟩
  case isFalse => cases h

/-- The value of an extra told by `Invocation.update?` is the payload of one of the arguments. -/
theorem exists_payload_of_update? {i : Invocation} {key : String} {n : Note}
    (h : i.update? = some (.extra key (some n))) : ∃ v ∈ i.args, v.payload? = some n := by
  unfold update? at h
  split at h
  case isFalse => cases h
  case isTrue =>
    -- Only the branch of `putExtra` tells an extra.
    split at h
    · obtain ⟨activity, -, heq⟩ := Option.map_eq_some_iff.1 h
      cases heq
    · split at h
      · obtain ⟨key', -, heq⟩ := Option.map_eq_some_iff.1 h
        obtain ⟨-, hvalue⟩ := IntentUpdate.extra.inj heq
        obtain ⟨v, hv, hpayload⟩ := Option.bind_eq_some_iff.1 hvalue
        exact ⟨v, List.mem_of_mem_drop (List.mem_of_getElem? hv), hpayload⟩
      · cases h

/-- `Invocation.observed` tells the receiver `i.update?` and leaves all other arguments as they are.
-/
theorem observed_args (i : Invocation) : i.observed.args = tellHead i.args i.update? := by
  rw [update?_eq]
  unfold observed
  cases hk : IntentMethod.of? i.method with
  | none => simp [tellHead]
  | some k =>
    -- Two of the four methods tell the receiver something; the other two leave the arguments alone.
    cases k with
    | setClassName =>
      dsimp only [IntentMethod.observe]
      rw [IntentMethod.setClass_args rfl]
      split <;> rfl
    | putExtra =>
      dsimp only [IntentMethod.observe]
      rw [IntentMethod.addExtra_args rfl]
      split <;> rfl
    | getStringExtra =>
      dsimp only [IntentMethod.observe]
      rw [IntentMethod.readExtra_args]
      simp [tellHead]
    | startActivity =>
      dsimp only [IntentMethod.observe]
      rw [IntentMethod.start_args]
      simp [tellHead]

end Invocation

/-! ### All calls -/

namespace Call

variable (c : Call)

/-- **Method calls.** `Call.invoke` tells the receiver what `Invocation.update?` says, and all other
arguments stay as they are. -/
theorem invoke_args (binding : Binding) :
    (c.invoke binding).args =
      tellHead c.args ((c.invocation? binding).bind Invocation.update?) := by
  unfold invoke
  cases hi : c.invocation? binding with
  | none => rfl
  | some i =>
    have hargs : i.args = c.args := by
      obtain ⟨m, -, rfl⟩ := Option.map_eq_some_iff.1 hi
      rfl
    simp only [Option.bind_some, i.observed_args, hargs]

end Call

/-- What a call of `behaviour` tells the Intent that is its first argument. Only method calls tell
anything. -/
def Behaviour.update? (behaviour : Behaviour) (c : Call) : Option IntentUpdate :=
  match behaviour with
  | .invoke _ binding _ => (c.invocation? binding).bind Invocation.update?
  | _ => none

/-- What a call `c` does to its first argument when it changes it: `c.Changes behaviour v v'` for a
first argument `v` that becomes `v'`. -/
inductive Call.Changes (c : Call) : Behaviour → Value → Value → Prop
  /-- A field of it is read, and a missing value made up. -/
  | read {kind : Kind} {isStatic : Bool} {name : String} {type : JavaType} {value : Note}
      {v v' : Value} (hfield : c.fieldArg? = some (name, type))
      (h : v.readField isStatic name type = some (value, v')) :
    Changes c (.getField kind isStatic) v v'
  /-- A field of it is given a value. -/
  | written {kind : Kind} {isStatic : Bool} {name : String} {type : JavaType} {value : Note}
      {v v' : Value} (hfield : c.fieldArg? = some (name, type))
      (hvalue : c.storedArg? type = some value)
      (h : v.writeField isStatic name type value = some v') :
    Changes c (.setField kind isStatic) v v'
  /-- It is told something. -/
  | told {returns : Kind} {binding : Binding} {passing : Passing} {i : Invocation}
      {update : IntentUpdate} (v : Value) (hi : c.invocation? binding = some i)
      (hupdate : i.update? = some update) :
    Changes c (.invoke returns binding passing) v (v.tell update)

/-- The arguments before and after a call: they are the same, or the first one is changed by
`Call.Changes`. They may be the same only where `behaviour.update?` has nothing to tell. -/
inductive Call.HeadChanged (c : Call) (behaviour : Behaviour) : List Value → List Value → Prop
  | nil : HeadChanged c behaviour [] []
  | same (args : List Value) (h : behaviour.update? c = none) : HeadChanged c behaviour args args
  | cons {v v' : Value} (rest : List Value) (h : c.Changes behaviour v v') :
    HeadChanged c behaviour (v :: rest) (v' :: rest)

namespace Call

variable (c : Call)

theorem returning?_args (notes? : Option (List Note)) : (c.returning? notes?).args = c.args := by
  cases notes? <;> rfl

/-- Method calls, in the terms of `Call.HeadChanged`: by `invoke_args` the first argument is told
something or nothing happens. -/
theorem invoke_changes (returns : Kind) (binding : Binding) (passing : Passing) :
    c.HeadChanged (.invoke returns binding passing) c.args (c.invoke binding).args := by
  rw [c.invoke_args]
  cases hupdate : (c.invocation? binding).bind Invocation.update? with
  | none => exact .same c.args hupdate
  | some update =>
    obtain ⟨i, hi, hupdate⟩ := Option.bind_eq_some_iff.1 hupdate
    unfold tellHead
    cases c.args with
    | nil => exact .nil
    | cons v rest => exact .cons rest (.told v hi hupdate)

/-- Reading a field changes its owner by `Value.readField`, or nothing where there is no field or no
owner. -/
theorem getField_changes (kind : Kind) (isStatic : Bool) :
    c.HeadChanged (.getField kind isStatic) c.args (c.getField isStatic).args := by
  unfold getField
  split
  case h_1 name type owner rest hfield hargs =>
    split
    case h_1 value owner' hread =>
      rw [hargs]
      exact .cons rest (.read hfield hread)
    case h_2 => exact .same c.args rfl
  case h_2 => exact .same c.args rfl

/-- Writing a field changes its owner by `Value.writeField`. Nothing happens where there is no
field, no owner or no value to store. -/
theorem setField_changes (kind : Kind) (isStatic : Bool) :
    c.HeadChanged (.setField kind isStatic) c.args (c.setField isStatic).args := by
  unfold setField
  split
  case h_1 name type owner rest hfield hargs =>
    split
    case h_1 => exact .same c.args rfl
    case h_2 value hvalue =>
      split
      case h_1 owner' hwrite =>
        rw [hargs]
        exact .cons rest (.written hfield hvalue hwrite)
      case h_2 => exact .same c.args rfl
  case h_2 => exact .same c.args rfl

theorem storage_args : c.storage.args = c.args := by
  unfold storage
  split <;> rfl

theorem registerNatives_args : c.registerNatives.args = c.args := by
  unfold registerNatives
  split <;> rfl

theorem unregisterNatives_args : c.unregisterNatives.args = c.args := by
  unfold unregisterNatives
  split <;> rfl

end Call

/-- **All calls.** `behaviour.effect` changes an argument only if it is `getField`, `setField` or
`invoke`, and these change the first one only. -/
theorem Behaviour.effect_changes (behaviour : Behaviour) (c : Call) :
    c.HeadChanged behaviour c.args (behaviour.effect c).args := by
  -- The three families that change an argument have a lemma each; the others give their arguments
  -- back.
  cases behaviour with
  | invoke returns binding passing => exact c.invoke_changes returns binding passing
  | getField kind isStatic => exact c.getField_changes kind isStatic
  | setField kind isStatic => exact c.setField_changes kind isStatic
  | storage =>
    rw [effect, c.storage_args]
    exact .same c.args rfl
  | registerNatives =>
    rw [effect, c.registerNatives_args]
    exact .same c.args rfl
  | unregisterNatives =>
    rw [effect, c.unregisterNatives_args]
    exact .same c.args rfl
  | findClass | defineClass | objectClass | allocObject | newObject | methodId | fieldId |
    toReflectedMethod | toReflectedField | fromReflectedMethod | fromReflectedField |
    newStringUtf | newString | arrayElement =>
    -- All of these end in `Call.returning?`, which keeps the arguments in both of its cases.
    have hargs := c.returning?_args
    exact (hargs _).symm ▸ .same c.args rfl
  | reserved | unconstrained | superclass | newReference | length | newObjectArray |
    newPrimitiveArray => exact .same c.args rfl

/-! ### What is told and what is stored -/

/-- What can become of the first of the arguments `args`: `Touched args update? v v'` for a first
argument `v` that becomes `v'` and is told `update?`. -/
inductive Value.Touched (args : List Value) : Option IntentUpdate → Value → Value → Prop
  /-- It stays as it is. -/
  | same (v : Value) : Touched args none v v
  /-- It is told something. -/
  | told (v : Value) (update : IntentUpdate) : Touched args (some update) v (v.tell update)
  /-- A field of it is read, and a missing value made up. -/
  | read {v v' : Value} {isStatic : Bool} {name : String} {type : JavaType} {value : Note}
      (h : v.readField isStatic name type = some (value, v')) : Touched args none v v'
  /-- A field of it is given the value of an argument, or one of which only the type is known. -/
  | written {v v' : Value} {isStatic : Bool} {name : String} {type : JavaType} {value : Note}
      (hvalue : (∃ arg ∈ args, arg.payload? = some value) ∨ type.note? .native = some value)
      (h : v.writeField isStatic name type value = some v') : Touched args none v v'

/-- The arguments before and after a call: at most the first one is touched. The names of fields
that `Call.HeadChanged` keeps are left out. -/
inductive Value.HeadTouched (update? : Option IntentUpdate) : List Value → List Value → Prop
  | nil : HeadTouched update? [] []
  | cons {v v' : Value} (rest : List Value) (h : Touched (v :: rest) update? v v') :
    HeadTouched update? (v :: rest) (v' :: rest)

theorem Value.HeadTouched.same (args : List Value) : HeadTouched none args args := by
  cases args with
  | nil => exact .nil
  | cons v rest => exact .cons rest (.same v)

/-- A stored value is the payload of an argument, or a fresh note of the type of the field. -/
theorem Call.storedArg?_cases {c : Call} {type : JavaType} {value : Note}
    (h : c.storedArg? type = some value) :
    (∃ arg ∈ c.args, arg.payload? = some value) ∨ type.note? .native = some value := by
  rcases Option.or_eq_some_iff.1 h with hpayload | ⟨-, hfresh⟩
  · obtain ⟨arg, harg, hpayload⟩ := Option.bind_eq_some_iff.1 hpayload
    exact .inl ⟨arg, List.mem_of_getElem? harg, hpayload⟩
  · exact .inr hfresh

/-- `behaviour.effect` touches the first argument at most, and tells it `behaviour.update? c`:
`Behaviour.effect_changes` without the names of the fields. -/
theorem Behaviour.effect_touches (behaviour : Behaviour) (c : Call) :
    Value.HeadTouched (behaviour.update? c) c.args (behaviour.effect c).args := by
  have hchanged := behaviour.effect_changes c
  have hstored : ∀ type value, c.storedArg? type = some value →
      (∃ arg ∈ c.args, arg.payload? = some value) ∨ type.note? .native = some value :=
    fun _ _ => Call.storedArg?_cases
  -- `cases` needs the arguments to be variables; what is stored is said of them beforehand.
  generalize c.args = args at hchanged hstored
  generalize (behaviour.effect c).args = args' at hchanged
  cases hchanged with
  | nil => exact .nil
  | same _ hnone =>
    rw [hnone]
    exact .same args
  | cons rest h =>
    refine .cons rest ?_
    cases h with
    | read _ hread => exact .read hread
    | written _ hvalue hwrite => exact .written (hstored _ _ hvalue) hwrite
    | told _ hi hupdate =>
      rw [Behaviour.update?, hi, Option.bind_some, hupdate]
      exact .told _ _

/-- `Behaviour.reply` adds a result to `Behaviour.effect` and changes nothing else of it. -/
theorem Behaviour.reply_effect (behaviour : Behaviour) (c : Call) :
    (behaviour.reply c).effect = behaviour.effect c := by
  unfold reply
  split
  · rfl
  · split <;> rfl

/-- **What is returned.** The value of `behaviour.reply c` is the first argument, where `behaviour`
is `storage`, or else a new value with the notes of `behaviour.effect c`. -/
theorem Behaviour.reply_cases {behaviour : Behaviour} {c : Call} {w : Value}
    (h : (behaviour.reply c).value? = some w) :
    (behaviour = .storage ∧ c.args.head? = some w) ∨ w.notes = (behaviour.effect c).notes := by
  unfold reply at h
  split at h
  case h_1 passed hpassed =>
    cases h
    unfold passedOn? at hpassed
    split at hpassed
    case isTrue hstorage => exact .inl ⟨hstorage, hpassed⟩
    case isFalse => cases hpassed
  case h_2 =>
    split at h
    · cases h
    · cases h
      exact .inr rfl

/-- A function whose `returns` is not void returns something. -/
theorem Behaviour.exists_value? {behaviour : Behaviour} (hreturns : behaviour.returns ≠ .void)
    (c : Call) : ∃ w, (behaviour.reply c).value? = some w := by
  unfold reply
  split
  case h_1 passed _ => exact ⟨passed, rfl⟩
  case h_2 =>
    rw [if_neg hreturns]
    exact ⟨_, rfl⟩

/-- A function that returns anything but the `storage` of its argument returns a new value, with the
notes of `behaviour.effect c`. -/
theorem Behaviour.reply_result {behaviour : Behaviour} (hreturns : behaviour.returns ≠ .void)
    (hstorage : behaviour ≠ .storage) (c : Call) :
    ∃ w, (behaviour.reply c).value? = some w ∧ w.notes = (behaviour.effect c).notes := by
  obtain ⟨w, hw⟩ := exists_value? hreturns c
  rcases reply_cases hw with ⟨hpassed, -⟩ | hnotes
  · exact absurd hpassed hstorage
  · exact ⟨w, hw, hnotes⟩

/-- A function whose `returns` is void returns nothing. -/
theorem Behaviour.reply_void {behaviour : Behaviour} (hreturns : behaviour.returns = .void)
    (c : Call) : (behaviour.reply c).value? = none := by
  -- Only `storage` passes its argument on, and its result is not void.
  have hpassed : behaviour.passedOn? c.args = none := by
    refine if_neg ?_
    rintro rfl
    cases hreturns
  unfold reply
  simp only [hpassed, if_pos hreturns]

/-- Where `Function.call` succeeds, it gives the reply of the behaviour of `f`. -/
theorem Function.reply_of_call {f : Function} {c : Call} {reply : Reply}
    (h : f.call c = .ok reply) : reply = f.behaviour.reply c := by
  unfold call at h
  split at h
  case isTrue => cases h
  case isFalse => exact (Except.ok.inj h).symm

/-! ### The state of an Intent -/

namespace Value

/-- The inter-component state of the object that `v` refers to. -/
def icc? (v : Value) : Option (IccState Note) := v.object?.bind (·.icc)

/-- The state of an Intent after it has been told `update` is `icc.tell update`. -/
theorem icc?_tell {v : Value} {icc : IccState Note} (h : v.icc? = some icc)
    (update : IntentUpdate) : (v.tell update).icc? = some (icc.tell update) := by
  obtain ⟨o, ho, hicc⟩ := Option.bind_eq_some_iff.1 h
  simp [tell, icc?, ho, ObjectIdentity.tell, hicc]

/-- Reading a field leaves the state of an Intent alone, whether the field is of the class or of the
object. -/
theorem icc?_of_readField {v v' : Value} {isStatic : Bool} {name : String} {type : JavaType}
    {value : Note} (h : v.readField isStatic name type = some (value, v')) : v'.icc? = v.icc? := by
  unfold readField at h
  split at h
  case isTrue =>
    obtain ⟨⟨note, owner⟩, -, heq⟩ := Option.map_eq_some_iff.1 h
    cases heq
    simp [icc?]
  case isFalse =>
    obtain ⟨⟨note, owner⟩, hread, heq⟩ := Option.map_eq_some_iff.1 h
    cases heq
    obtain ⟨o, ho, hfield⟩ := Option.bind_eq_some_iff.1 hread
    obtain ⟨⟨note', fields⟩, -, heq⟩ := Option.map_eq_some_iff.1 hfield
    cases heq
    simp [icc?, ho]

/-- So does writing one. -/
theorem icc?_of_writeField {v v' : Value} {isStatic : Bool} {name : String} {type : JavaType}
    {value : Note} (h : v.writeField isStatic name type value = some v') : v'.icc? = v.icc? := by
  unfold writeField at h
  split at h
  case isTrue =>
    obtain ⟨owner, -, rfl⟩ := Option.map_eq_some_iff.1 h
    simp [icc?]
  case isFalse =>
    obtain ⟨owner, ho, rfl⟩ := Option.map_eq_some_iff.1 h
    simp [icc?, ho, ObjectIdentity.writeField]

/-- **The state of an Intent.** Whatever a call does to its first argument, the state is the one
before, told what there was to tell. -/
theorem Touched.icc? {args : List Value} {update? : Option IntentUpdate} {v v' : Value}
    (h : Touched args update? v v')
    {icc : IccState Note} (hicc : v.icc? = some icc) :
    v'.icc? = some (update?.toList.foldl IccState.tell icc) := by
  cases h with
  | same => exact hicc
  | told _ update => exact icc?_tell hicc update
  | read h => rw [icc?_of_readField h]; exact hicc
  | written _ h => rw [icc?_of_writeField h]; exact hicc

end Value

end NativeFlow
