import NativeFlow.Proofs.FieldHistory
import NativeFlow.Proofs.List
import NativeFlow.Proofs.Precedence

namespace NativeFlow

/-!
# Inherited taint

A method that is no source hands down taint: that of the object it is called on, or else that of
the first tainted field of the object, or of the class for static methods. Which field that is
depends on everything that was done to the fields before.

* `FieldTable.rows_eq`: a table is given by the order of its keys and by what it holds for them.
* `FieldCall`: a call that accesses a field of its first argument. `FieldCall.touched` lists the
  fields that some calls access, in the order of the first access to each, and `FieldCall.contents`
  is what such a field holds in the end.
* `FieldCall.apply_history`, `FieldCall.after_history`: what one call, and what many calls make of a
  table.
* `FieldCall.rows_after`: a table that was empty at first has one row for each field that was
  touched, in the order of the first access.
* `Invocation.inheritedTaint_of_clean`, `Invocation.taint?_observed`: what is handed down.
* `Function.inherited_taint`: all of this together.
-/

/-! ### Tables -/

namespace FieldTable

/-- The keys of a table in the order of its rows. -/
def keys (table : FieldTable Note) : List FieldKey := table.rows.map Prod.fst

/-- A table holds something for the keys of its rows. -/
theorem isSome_get?_iff {table : FieldTable Note} {key : FieldKey} :
    (table.get? key).isSome ↔ key ∈ table.keys := by
  obtain ⟨rows⟩ := table
  show (lookup key rows).isSome ↔ key ∈ rows.map Prod.fst
  induction rows with
  | nil => simp [lookup]
  | cons row rest ih =>
    obtain ⟨k, value⟩ := row
    by_cases hk : k = key
    · simp [lookup, hk]
    · simp [lookup, hk, Ne.symm hk, ih]

/-- A row that is changed keeps its place, and a new one is put behind all others. -/
theorem RowChanged.keys_eq {key : FieldKey} {table table' : FieldTable Note}
    (h : RowChanged key table table') :
    table'.keys = if key ∈ table.keys then table.keys else table.keys ++ [key] := by
  cases h with
  | replaced before after old new => simp [keys]
  | added rows new hnew =>
    have hkeys : key ∉ (⟨rows⟩ : FieldTable Note).keys := hnew
    rw [if_neg hkeys]
    simp [keys]

/-- **A table is given by its keys and by what it holds for them,** if no key has two rows. -/
theorem rows_eq {table : FieldTable Note} (h : table.keys.Nodup) :
    table.rows =
      table.keys.filterMap fun key => (table.get? key).map fun value => (key, value) := by
  obtain ⟨rows⟩ := table
  show rows =
    (rows.map Prod.fst).filterMap fun key => (lookup key rows).map fun value => (key, value)
  induction rows with
  | nil => rfl
  | cons row rest ih =>
    obtain ⟨k, value⟩ := row
    obtain ⟨hk, hrest⟩ := List.nodup_cons.1 h
    -- No other row has the key of the first one, so all others are looked up in the rest.
    have hlookup : ∀ key ∈ rest.map Prod.fst,
        (lookup key ((k, value) :: rest)).map (fun value => (key, value)) =
          (lookup key rest).map fun value => (key, value) := by
      intro key hmem
      have hne : k ≠ key := fun heq => hk (heq ▸ hmem)
      rw [lookup, if_neg hne]
    rw [List.map_cons, List.filterMap_cons, List.filterMap_congr hlookup, ← ih hrest]
    simp [lookup]

end FieldTable

/-! ### Calls that access fields -/

/-- The call that is made with a value in front of the arguments. -/
def Call.on (c : Call) (v : Value) : Call := { c with args := v :: c.args }

namespace Behaviour

/-- Whether a function reads or writes a field. -/
def accessesField : Behaviour → Bool
  | .getField _ _ | .setField _ _ => true
  | _ => false

/-- The field of its first argument that a call accesses. -/
def touched? (behaviour : Behaviour) (c : Call) (isStatic : Bool) : Option FieldKey :=
  match behaviour with
  | .getField _ isStatic' | .setField _ isStatic' =>
    if isStatic' = isStatic then c.fieldArg?.map fun field => fieldKey field.1 field.2 else none
  | _ => none

variable {behaviour : Behaviour} {c : Call} {isStatic : Bool} {key : FieldKey}

/-- A field that is accessed holds something afterwards. -/
theorem isSome_access? (h : behaviour.touched? c isStatic = some key) {v : Value}
    {fields : FieldTable Note} (hfields : v.fields? isStatic = some fields) (held : Option Note) :
    ((behaviour.access? c isStatic key).toList.foldl (FieldAccess.apply (v.madeUp? isStatic))
      held).isSome := by
  cases behaviour with
  | getField kind isStatic' =>
    simp only [touched?] at h
    split at h
    case isFalse => cases h
    case isTrue hsort =>
      obtain ⟨⟨name, type⟩, hfield, rfl⟩ := Option.map_eq_some_iff.1 h
      have hmade := Value.isSome_madeUp? hfields (Call.kind_of_fieldArg? hfield)
      simp [access?, hfield, hsort, FieldAccess.apply, hmade]
  | setField kind isStatic' =>
    simp only [touched?] at h
    split at h
    case isFalse => cases h
    case isTrue hsort =>
      obtain ⟨⟨name, type⟩, hfield, rfl⟩ := Option.map_eq_some_iff.1 h
      -- There is always something to store, for a value of the field's type can be made up.
      have hfresh := JavaType.isSome_note? (Call.kind_of_fieldArg? hfield) .native
      obtain ⟨value, hvalue⟩ : ∃ value,
          ((c.arg? 2).bind Value.payload?).or (type.note? .native) = some value :=
        Option.isSome_iff_exists.1 (by simp [hfresh])
      simp [access?, hfield, hsort, hvalue, FieldAccess.apply]
  | _ => cases h

/-- What a field access changes is the field that it accesses. -/
theorem fieldChanged_of_mayChange {v v' : Value} (haccess : behaviour.accessesField = true)
    (hmay : behaviour.MayChange c v v') :
    ∃ isStatic' key, Value.FieldChanged isStatic' key v v' ∧
      ∀ isStatic, behaviour.touched? c isStatic =
        if isStatic' = isStatic then some key else none := by
  cases behaviour with
  | getField kind isStatic' | setField kind isStatic' =>
    obtain ⟨name, type, hfield, hchanged⟩ := hmay
    exact ⟨isStatic', _, hchanged, fun isStatic => by simp [touched?, hfield]⟩
  | _ => cases haccess

/-- **One field access** leaves the keys of a table as they are, and adds the key of the field
behind them if that is new. -/
theorem effect_keys {v v' : Value} {rest : List Value} {fields fields' : FieldTable Note}
    {touched : List FieldKey} (haccess : behaviour.accessesField = true)
    (hargs : c.args = v :: rest) (hargs' : (behaviour.effect c).args = v' :: rest)
    (hfields : v.fields? isStatic = some fields) (hfields' : v'.fields? isStatic = some fields')
    (hkeys : fields.keys = touched.eraseDups) :
    fields'.keys = (touched ++ (behaviour.touched? c isStatic).toList).eraseDups := by
  rcases behaviour.effect_frame c with hsame | ⟨x, x', rest', hx, hx', hmay⟩
  · -- Nothing has changed, so the field that was accessed had a row before.
    rw [hargs', hargs] at hsame
    cases hsame
    obtain rfl : fields = fields' := Option.some.inj (hfields.symm.trans hfields')
    cases htouched : behaviour.touched? c isStatic with
    | none => simpa using hkeys
    | some key =>
      obtain ⟨held, hheld, hrows⟩ := behaviour.effect_accessed hargs hargs' isStatic fields hfields
      obtain rfl : fields = held := Option.some.inj (hfields.symm.trans hheld)
      have hrow : key ∈ fields.keys := by
        rw [← FieldTable.isSome_get?_iff, hrows]
        exact isSome_access? htouched hfields _
      rw [Option.toList_some, eraseDups_concat, ← hkeys, if_pos hrow]
  · rw [hargs] at hx
    rw [hargs'] at hx'
    cases hx
    cases hx'
    obtain ⟨isStatic', key, ⟨before, after, hbefore, hchanged, rfl⟩, htouched⟩ :=
      fieldChanged_of_mayChange haccess hmay
    rw [Value.fields?_setFields] at hfields'
    rw [htouched]
    -- The other sort of fields is left alone.
    by_cases hsort : isStatic' = isStatic
    · subst hsort
      obtain rfl : before = fields := Option.some.inj (hbefore.symm.trans hfields)
      obtain rfl : after = fields' := by simpa [hfields] using hfields'
      rw [if_pos rfl, Option.toList_some, eraseDups_concat, ← hkeys, hchanged.keys_eq]
    · rw [if_neg (Ne.symm hsort)] at hfields'
      obtain rfl : fields = fields' := Option.some.inj (hfields.symm.trans hfields')
      simpa [hsort] using hkeys

end Behaviour

/-- A call that accesses a field of a value, which is still to be put in front of the arguments. -/
structure FieldCall where
  function : Function
  /-- The call without its first argument. -/
  call : Call
  accessesField : function.behaviour.accessesField = true

namespace FieldCall

/-- What becomes of a value that is put in front of the arguments. -/
def apply (v : Value) (a : FieldCall) : Value :=
  match a.function.call (a.call.on v) with
  | .ok reply => reply.effect.args.head?.getD v
  | .error _ => v

/-- What becomes of a value that goes through some calls. -/
def after (v : Value) (calls : List FieldCall) : Value := calls.foldl apply v

/-- The access to a field that a call is. -/
def access? (v : Value) (isStatic : Bool) (key : FieldKey) (a : FieldCall) : Option FieldAccess :=
  a.function.behaviour.access? (a.call.on v) isStatic key

/-- The field that a call accesses. -/
def touched? (v : Value) (isStatic : Bool) (a : FieldCall) : Option FieldKey :=
  a.function.behaviour.touched? (a.call.on v) isStatic

/-- The fields that some calls access, in the order of the first access to each. -/
def touched (v : Value) (isStatic : Bool) (calls : List FieldCall) : List FieldKey :=
  (calls.filterMap (touched? v isStatic)).eraseDups

/-- What a field that held nothing at first holds after some calls: the value that was written last,
or else what the first read made up. -/
def contents (v : Value) (isStatic : Bool) (calls : List FieldCall) (key : FieldKey) :
    Option Note :=
  FieldAccess.contents (v.madeUp? isStatic) none (calls.filterMap (access? v isStatic key))

variable {v : Value} {isStatic : Bool}

/-- The value in front is what becomes of the first argument. -/
theorem effect_args (v : Value) (a : FieldCall) :
    (a.function.behaviour.effect (a.call.on v)).args = apply v a :: a.call.args := by
  have hreserved : a.function.behaviour ≠ .reserved := by
    intro h
    have haccess := a.accessesField
    rw [h] at haccess
    cases haccess
  have happly : apply v a = ((a.function.behaviour.effect (a.call.on v)).args.head?).getD v := by
    simp only [apply, Function.call, if_neg hreserved, Behaviour.reply_effect]
  have htouched := a.function.behaviour.effect_touches (a.call.on v)
  rw [happly]
  generalize (a.function.behaviour.effect (a.call.on v)).args = args' at htouched ⊢
  cases htouched with
  | cons => rfl

/-- A call keeps all of the value but its fields. -/
theorem keeps_apply (v : Value) (a : FieldCall) : v.Keeps (apply v a) := by
  have hkeeps := a.function.behaviour.effect_keeps (a.call.on v)
  rw [effect_args] at hkeeps
  exact (List.forall₂_cons.1 hkeeps).1

/-- **One call** accesses the field that it touches as it says, and puts a field that is touched for
the first time behind all others. -/
theorem apply_history (a : FieldCall) {fields : FieldTable Note} {history : List FieldKey}
    (hfields : v.fields? isStatic = some fields) (hkeys : fields.keys = history.eraseDups) :
    ∃ fields', (apply v a).fields? isStatic = some fields' ∧
      fields'.keys = (history ++ (touched? v isStatic a).toList).eraseDups ∧
      ∀ key, fields'.get? key =
        (access? v isStatic key a).toList.foldl (FieldAccess.apply (v.madeUp? isStatic))
          (fields.get? key) := by
  have hargs : (a.call.on v).args = v :: a.call.args := rfl
  obtain ⟨fields', hfields', hrows⟩ :=
    a.function.behaviour.effect_accessed hargs (effect_args v a) isStatic fields hfields
  have hkeys' :=
    Behaviour.effect_keys a.accessesField hargs (effect_args v a) hfields hfields' hkeys
  exact ⟨fields', hfields', hkeys', hrows⟩

/-- The last call is made on what the others have left. -/
theorem after_concat (v : Value) (calls : List FieldCall) (a : FieldCall) :
    after v (calls ++ [a]) = apply (after v calls) a := by
  simp [after]

/-- Calls keep all of the value but its fields. -/
theorem keeps_after (v : Value) (calls : List FieldCall) : v.Keeps (after v calls) := by
  induction calls using List.reverseRecOn with
  | nil => exact .refl v
  | append_singleton calls a ih =>
    rw [after_concat]
    exact ih.trans (keeps_apply _ a)

/-- **Many calls** access the fields of a table that was empty at first one after another. -/
theorem after_history (hempty : v.fields? isStatic = some {}) (calls : List FieldCall) :
    ∃ fields, (after v calls).fields? isStatic = some fields ∧
      fields.keys = touched v isStatic calls ∧
      ∀ key, fields.get? key =
        (calls.filterMap (access? v isStatic key)).foldl
          (FieldAccess.apply (v.madeUp? isStatic)) none := by
  -- From the end: the last call is made on the table that the others have left.
  induction calls using List.reverseRecOn with
  | nil => exact ⟨{}, hempty, rfl, fun _ => rfl⟩
  | append_singleton calls a ih =>
    obtain ⟨fields, hfields, hkeys, hrows⟩ := ih
    obtain ⟨fields', hfields', hkeys', hrows'⟩ := apply_history a hfields hkeys
    rw [after_concat]
    refine ⟨fields', hfields', ?_, fun key => ?_⟩
    · -- What a call touches does not depend on the value that is put in front.
      have hsame : touched? (after v calls) isStatic a = touched? v isStatic a := rfl
      rw [hkeys', hsame, touched, List.filterMap_append, filterMap_singleton]
    · have hsame : access? (after v calls) isStatic key a = access? v isStatic key a := rfl
      rw [hrows', hrows, (keeps_after v calls).madeUp?, hsame, List.filterMap_append,
        List.foldl_append, filterMap_singleton]

/-- **The rows of a table** that was empty at first: one for each field that was touched, in the
order of the first access to each, with what the field holds. -/
theorem rows_after (hempty : v.fields? isStatic = some {}) (calls : List FieldCall) :
    ∃ fields, (after v calls).fields? isStatic = some fields ∧
      fields.rows = (touched v isStatic calls).filterMap fun key =>
        (contents v isStatic calls key).map fun value => (key, value) := by
  obtain ⟨fields, hfields, hkeys, hrows⟩ := after_history hempty calls
  have hcontents : ∀ key, fields.get? key = contents v isStatic calls key := by
    intro key
    rw [hrows]
    refine FieldAccess.foldl_apply (fun type hmem => ?_) none
    obtain ⟨a, -, haccess⟩ := List.mem_filterMap.1 hmem
    exact Value.isSome_madeUp? hempty (Behaviour.kind_of_access? haccess)
  refine ⟨fields, hfields, ?_⟩
  have hnodup : fields.keys.Nodup := hkeys ▸ nodup_eraseDups _
  -- No field has two rows, so the order of the keys and what they hold say it all.
  rw [FieldTable.rows_eq hnodup, hkeys]
  simp only [hcontents]

/-- The taint of the field that was touched first among those that hold something tainted. -/
def firstTaint (v : Value) (isStatic : Bool) (calls : List FieldCall) : Taint :=
  (((touched v isStatic calls).filterMap fun key =>
    (contents v isStatic calls key).bind Note.taint?).find? Taint.isTainted).getD .clean

/-- What `firstTainted?` finds in the table is `firstTaint` of the calls. -/
theorem firstTainted?_after (hempty : v.fields? isStatic = some {}) (calls : List FieldCall) :
    ∃ fields, (after v calls).fields? isStatic = some fields ∧
      fields.firstTainted?.getD .clean = firstTaint v isStatic calls := by
  obtain ⟨fields, hfields, hrows⟩ := rows_after hempty calls
  refine ⟨fields, hfields, ?_⟩
  have hrow : ∀ key, ((contents v isStatic calls key).map fun value => (key, value)).bind
      (fun row => row.2.taint?) = (contents v isStatic calls key).bind Note.taint? := by
    intro key
    rw [Option.bind_map]
    rfl
  rw [FieldTable.firstTainted?, hrows, List.filterMap_filterMap]
  simp only [hrow, firstTaint]

end FieldCall

/-! ### What is handed down -/

namespace Invocation

variable {i : Invocation} {v : Value}

/-- Anything that is not tainted itself hands down the taint of its first tainted field. -/
theorem inheritedTaint_of_clean {fields : FieldTable Note} (hhead : i.args.head? = some v)
    (hfields : v.fields? (!i.binding.hasReceiver) = some fields)
    (hclean : i.binding.hasReceiver = true → v.object?.map (·.taint) = some .clean) :
    i.inheritedTaint = fields.firstTainted?.getD .clean := by
  unfold inheritedTaint
  rw [IntentMethod.receiver?_bind_object?, hhead]
  -- Static methods look at the fields of the class, others at the object first.
  cases hreceiver : i.binding.hasReceiver with
  | false =>
    rw [hreceiver] at hfields
    have hclass : v.class?.map (·.fields) = some fields := hfields
    simp [hclass]
  | true =>
    rw [hreceiver] at hfields
    have hobject : v.object?.map (·.fields) = some fields := hfields
    obtain ⟨⟨source, javaType, own, taint, icc⟩, ho, htaint⟩ :=
      Option.map_eq_some_iff.1 (hclean hreceiver)
    obtain rfl : taint = .clean := htaint
    obtain rfl : own = fields := by simpa [ho] using hobject
    simp [ho]

/-- What a method that is no source returns has the taint that is handed down, if the method neither
puts anything into an Intent nor takes anything out of one. -/
theorem taint?_observed (hsource : ∀ categories, i.classification? ≠ some (.source categories))
    (hput : IntentMethod.of? i.method ≠ some .putExtra)
    (hget : IntentMethod.of? i.method ≠ some .getStringExtra) {n : Note}
    (h : i.observed.returned? = some n) : n.taint? = some i.inheritedTaint := by
  -- There was something to return before Intents were looked at, and it had the inherited taint.
  obtain ⟨m, hm⟩ := Option.isSome_iff_exists.1
    (i.isSome_observed.symm.trans (Option.isSome_of_eq_some h))
  have hback : i.handedBack? = none := by
    refine if_neg fun hextra => hput ?_
    exact IntentMethod.of?_eq_some_iff.2 hextra.1.symm
  obtain ⟨n', hn', htaint⟩ := observed_taint? hback hm
  obtain rfl : n = n' := Option.some.inj (h.symm.trans hn')
  rw [← resultTaint_of_not_source hsource]
  rcases htaint with ht | ⟨hextra, -⟩
  · exact ht
  · exact absurd hextra hget

end Invocation

/-- **Inherited taint.** Let a value go through any calls that access its fields, and let a method
be called on it then that is no source and neither puts anything into an Intent nor takes anything
out of one. Static methods are called on classes and have to do with static fields, others are
called on objects and have to do with the fields of these.

If the fields were empty at first, they have one row for each field that was touched, in the order
of the first access to each, with what the field holds. The call goes through and returns something
of known taint, if the method has a readable descriptor and returns anything. The taint of what it
returns is that of the object it is called on, if that is tainted, whatever the fields of the object
are. Otherwise, if the fields were empty at first, it is that of the field that was touched first
among those that hold something tainted, and clean if there is none. -/
theorem Function.inherited_taint {f : Function} {c : Call} {returns : Kind} {binding : Binding}
    {passing : Passing} {i : Invocation} (v : Value) (calls : List FieldCall)
    (hf : f.behaviour = .invoke returns binding passing)
    (hi : (c.on (FieldCall.after v calls)).invocation? binding = some i)
    (hsource : ∀ categories, c.catalog.classify i.method.fullSignature ≠ some (.source categories))
    (hput : (i.method.className, i.method.methodName) ≠ (intentClass, "putExtra"))
    (hget : (i.method.className, i.method.methodName) ≠ (intentClass, "getStringExtra")) :
    (∀ isStatic, v.fields? isStatic = some {} →
      ∃ fields, (FieldCall.after v calls).fields? isStatic = some fields ∧
        fields.rows = (FieldCall.touched v isStatic calls).filterMap fun key =>
          (FieldCall.contents v isStatic calls key).map fun value => (key, value)) ∧
    ∃ reply, f.call (c.on (FieldCall.after v calls)) = .ok reply ∧
      (∀ signature, returns ≠ .void → MethodSignature.ofText i.method.signature = .ok signature →
        signature.returns.kind ≠ .void → ∃ w n, reply.value? = some w ∧ w.notes = [n]) ∧
      ∀ w n, reply.value? = some w → n ∈ w.notes →
        (∀ o, binding.hasReceiver = true → v.object? = some o → o.taint.isTainted = true →
          n.taint? = some o.taint) ∧
        (v.fields? (!binding.hasReceiver) = some {} →
          (binding.hasReceiver = true → v.object?.map (·.taint) = some .clean) →
          n.taint? = some (FieldCall.firstTaint v (!binding.hasReceiver) calls)) := by
  refine ⟨fun isStatic hempty => FieldCall.rows_after hempty calls, ?_⟩
  obtain ⟨reply, hcall, hvalue, hresults⟩ := call_of_invocation hf hi
  obtain ⟨m, -, rfl⟩ := Option.map_eq_some_iff.1 hi
  refine ⟨reply, hcall, fun signature hreturns hsignature hkind => ?_, fun w n hw hn => ?_⟩
  · obtain ⟨w, hw⟩ := Option.isSome_iff_exists.1 (hvalue hreturns)
    obtain ⟨n, hn⟩ := Option.isSome_iff_exists.1
      ((Invocation.isSome_observed _).trans (Invocation.isSome_returned? hsignature hkind))
    refine ⟨w, n, hw, ?_⟩
    rw [hresults w hw, hn, Option.toList_some]
  · rw [hresults w hw, Option.mem_toList] at hn
    have hinherited := Invocation.taint?_observed hsource
      (fun h => hput (IntentMethod.of?_eq_some_iff.1 h).symm)
      (fun h => hget (IntentMethod.of?_eq_some_iff.1 h).symm) hn
    have htaint : (FieldCall.after v calls).object?.map (·.taint) = v.object?.map (·.taint) :=
      (FieldCall.keeps_after v calls).map_object? fun _ => rfl
    rw [hinherited]
    refine ⟨fun o hreceiver ho htainted => ?_, fun hempty hclean => ?_⟩
    · -- The object has other fields than before, but the same taint.
      rw [ho, Option.map_some, Option.map_eq_some_iff] at htaint
      obtain ⟨o', ho', hsame⟩ := htaint
      rw [← hsame] at htainted ⊢
      exact congrArg some (Invocation.inheritedTaint_of_tainted hreceiver ho' htainted)
    · obtain ⟨fields, hfields, hfirst⟩ := FieldCall.firstTainted?_after hempty calls
      rw [← hfirst]
      exact congrArg some (Invocation.inheritedTaint_of_clean rfl hfields fun hreceiver =>
        htaint.trans (hclean hreceiver))

/-! ### A member whose fields are read and written -/

namespace FieldCall

/-- A member of a club that is handed in as an argument. -/
def member : Value := ⟨1, 64, [.object { source := .argument, javaType := "Member" }]⟩

/-- The id of a text that every member has. -/
def memberField (name : String) : Value := ⟨2, 64, [.field ⟨"Member", name, "LText;"⟩]⟩

/-- A call without its first argument. -/
def memberCall (args : List Value) : Call := ⟨{ pointerBits := 64 }, {}, {}, args⟩

/-- A text of the given taint is stored in a field. -/
def storeText (name : String) (taint : Taint) : FieldCall where
  function := ⟨104, "SetObjectField", some "_ZN7_JNIEnv14SetObjectFieldEP8_jobjectP9_jfieldIDS1_",
    .setField .object false⟩
  call := memberCall [memberField name,
    ⟨3, 64, [.object { source := .native, javaType := "Text", taint }]⟩]
  accessesField := rfl

/-- A text is read from a field. -/
def readText (name : String) : FieldCall where
  function := ⟨95, "GetObjectField", some "_ZN7_JNIEnv14GetObjectFieldEP8_jobjectP9_jfieldID",
    .getField .object false⟩
  call := memberCall [memberField name]
  accessesField := rfl

/-- The name is stored, another text is read, and the name is stored again. -/
def renamed : List FieldCall :=
  [storeText "name" .clean, readText "phone", storeText "name" (Taint.of .api ["NAME"])]

/-- The method that describes a member. -/
def describe : Value := ⟨4, 64, [.method ⟨"Member", "describe", "()LText;"⟩]⟩

set_option maxRecDepth 20000 in
/-- The phone number that was made up is sensitive, but the name was touched before it, and is
tainted by now. -/
theorem inherited_taint_of_renamed :
    ∃ fields function reply w n, (after member renamed).fields? false = some fields ∧
      fields.rows.map (·.1.name) = ["name", "phone"] ∧
      Interface.ofName? "CallObjectMethod" = some function ∧
      function.call ((memberCall [describe]).on (after member renamed)) = .ok reply ∧
      reply.value? = some w ∧ w.notes = [n] ∧ n.taint? = some (Taint.of .api ["NAME"]) := by
  obtain ⟨i, signature, hi, hmember, hknown, hsignature, hkind⟩ :
      ∃ i signature,
        ((memberCall [describe]).on (after member renamed)).invocation? .virtual = some i ∧
        i.method.className = "Member" ∧
        (memberCall [describe]).catalog.classify i.method.fullSignature = none ∧
        MethodSignature.ofText i.method.signature = .ok signature ∧
        signature.returns.kind ≠ .void := ⟨_, _, rfl, rfl, rfl, rfl, by decide⟩
  have hclass : i.method.className ≠ intentClass := hmember ▸ by decide
  obtain ⟨function, hname, hf⟩ : ∃ function, Interface.ofName? "CallObjectMethod" = some function ∧
      function.behaviour = .invoke .object .virtual .variadic := ⟨_, rfl, rfl⟩
  obtain ⟨hrows, reply, hcall, hone, htaint⟩ :=
    Function.inherited_taint member renamed hf hi (by simp [hknown])
      (fun h => hclass (Prod.mk.inj h).1) (fun h => hclass (Prod.mk.inj h).1)
  obtain ⟨fields, hfields, hkeys⟩ := hrows false rfl
  obtain ⟨w, n, hw, hn⟩ := hone signature (by decide) hsignature hkind
  have hmem : n ∈ w.notes := hn ▸ List.mem_singleton_self n
  refine ⟨fields, function, reply, w, n, hfields, ?_, hname, hcall, hw, hn, ?_⟩
  · rw [hkeys]
    rfl
  · exact (htaint w n hw hmem).2 rfl fun _ => rfl

end FieldCall

end NativeFlow
