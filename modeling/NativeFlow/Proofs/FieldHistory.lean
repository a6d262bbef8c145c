import NativeFlow.Proofs.Addressing
import NativeFlow.Proofs.Frame
import NativeFlow.Proofs.History

namespace NativeFlow

/-!
# Fields along a run

The fields of an object are part of a value that has a name, and every call that names it takes them
out and puts them back. This module follows one field.

* `FieldAccess`: a field is read or written. `FieldAccess.contents` is what it holds after some
  accesses: what was written last, or else what it held at first, or else what the first read made
  up. `FieldAccess.foldl_apply` says that this is what the accesses lead to one by one.
* `Behaviour.access?`: the access to a field that a call is.
* `Behaviour.effect_accessed`: a call does that to the field and nothing else.
* `Replay.Holds.step`, `Replay.Holds.run`: so do all calls of a run to the field of a name.
* `Replay.read_field_contents`: what a read returns.
-/

/-! ### Accesses -/

/-- An access to a field. -/
inductive FieldAccess where
  /-- It is read as a field of a type. -/
  | read (type : JavaType)
  /-- It is given a value. -/
  | write (value : Note)

namespace FieldAccess

/-- What a field holds after an access. A read makes up a value where there is none. -/
def apply (madeUp : JavaType → Option Note) (held : Option Note) : FieldAccess → Option Note
  | .read type => held.or (madeUp type)
  | .write value => some value

/-- The value that is written. -/
def written? : FieldAccess → Option Note
  | .read _ => none
  | .write value => some value

/-- The type that is read. -/
def readType? : FieldAccess → Option JavaType
  | .read type => some type
  | .write _ => none

/-- What a field holds after some accesses: the value that was written last; if none was, the value
that the field held at first; and if there was none, what the first read made up. -/
def contents (madeUp : JavaType → Option Note) (held : Option Note)
    (history : List FieldAccess) : Option Note :=
  (history.filterMap written?).getLast?.or
    (held.or ((history.filterMap readType?).head?.bind madeUp))

/-- **One access after the other** leads to what the history says, if every read can make up a
value. -/
theorem foldl_apply {madeUp : JavaType → Option Note} {history : List FieldAccess}
    (hreads : ∀ type, .read type ∈ history → (madeUp type).isSome) (held : Option Note) :
    history.foldl (apply madeUp) held = contents madeUp held history := by
  induction history generalizing held with
  | nil => simp [contents]
  | cons access history ih =>
    have hrest := ih fun type hmem => hreads type (List.mem_cons_of_mem _ hmem)
    rw [List.foldl_cons, hrest]
    cases access with
    | read type =>
      -- The field holds something from here on, so no later read makes anything up.
      obtain ⟨made, hmade⟩ := Option.isSome_iff_exists.1 (hreads type List.mem_cons_self)
      have hheld : (held.or (some made)).isSome := by simp
      obtain ⟨value, hvalue⟩ := Option.isSome_iff_exists.1 hheld
      simp [contents, apply, written?, readType?, hmade, hvalue]
    | write value =>
      cases hlast : (history.filterMap written?).getLast? with
      | none => simp [contents, apply, written?, List.getLast?_cons, hlast]
      | some latest => simp [contents, apply, written?, List.getLast?_cons, hlast]

end FieldAccess

/-! ### Values that can be made up -/

/-- A descriptor that is accepted for a field is not that of `void`. -/
theorem JavaType.kind_of_ofText {descriptor : String} {type : JavaType}
    (h : ofText descriptor = .ok type) : type.kind ≠ .void := by
  unfold ofText at h
  dsimp only at h
  split at h
  case h_1 => cases h
  case h_2 =>
    split at h
    case h_1 => cases h
    case h_2 =>
      split at h
      case isTrue => cases h
      case isFalse hkind =>
        cases h
        exact hkind

/-- A value that has fields can make up a value for a field of any type. -/
theorem Value.isSome_madeUp? {v : Value} {isStatic : Bool} {fields : FieldTable Note}
    (hfields : v.fields? isStatic = some fields) {type : JavaType} (htype : type.kind ≠ .void) :
    (v.madeUp? isStatic type).isSome := by
  cases isStatic with
  | true => simpa [madeUp?] using JavaType.isSome_note? htype .classField
  | false =>
    obtain ⟨o, ho, -⟩ := Option.map_eq_some_iff.1 hfields
    simpa [madeUp?, ho] using JavaType.isSome_note? htype .objectField

/-- The type of a field that a call is about is not `void`. -/
theorem Call.kind_of_fieldArg? {c : Call} {name : String} {type : JavaType}
    (h : c.fieldArg? = some (name, type)) : type.kind ≠ .void := by
  obtain ⟨field, -, htype⟩ := Option.bind_eq_some_iff.1 h
  split at htype
  case h_1 hparsed =>
    cases htype
    exact JavaType.kind_of_ofText hparsed
  case h_2 => cases htype

/-- What is made up depends on nothing that a call can change. -/
theorem Value.Keeps.madeUp? {v v' : Value} (h : v.Keeps v') (isStatic : Bool) :
    v'.madeUp? isStatic = v.madeUp? isStatic := by
  funext type
  cases isStatic with
  | true => rfl
  | false =>
    -- What is made up for an object looks at `missTaint` of the object only.
    have hobject : ∀ w : Value, w.madeUp? false type =
        (w.object?.map ObjectIdentity.missTaint).bind fun taint =>
          (type.note? .objectField).map (·.absorb taint) := by
      intro w
      rw [Option.bind_map]
      rfl
    rw [hobject, hobject, h.map_object? fun _ => rfl]

/-! ### One call -/

/-- The access to a field of its first argument that a call is. What is written is the payload of
the third argument, or else a value of which only the type is known. -/
def Behaviour.access? (behaviour : Behaviour) (c : Call) (isStatic : Bool) (key : FieldKey) :
    Option FieldAccess :=
  match behaviour, c.fieldArg? with
  | .getField _ isStatic', some (name, type) =>
    if isStatic' = isStatic ∧ fieldKey name type = key then some (.read type) else none
  | .setField _ isStatic', some (name, type) =>
    if isStatic' = isStatic ∧ fieldKey name type = key then
      (((c.arg? 2).bind Value.payload?).or (type.note? .native)).map .write
    else none
  | _, _ => none

namespace Call

variable {c : Call} {v : Value} {rest : List Value} {isStatic : Bool} {fields : FieldTable Note}
  {name : String} {type : JavaType}

/-- A read returns what the field holds after it, and leaves all other fields as they are. -/
theorem getField_rows (hargs : c.args = v :: rest) (hfields : v.fields? isStatic = some fields)
    (hfield : c.fieldArg? = some (name, type)) :
    ∃ v' fields' value, c.getField isStatic = { c.returning [value] with args := v' :: rest } ∧
      v'.fields? isStatic = some fields' ∧
      (FieldAccess.read type).apply (v.madeUp? isStatic) (fields.get? (fieldKey name type)) =
        some value ∧
      ∀ key, fields'.get? key =
        if fieldKey name type = key then some value else fields.get? key := by
  obtain ⟨made, hmade⟩ :=
    Option.isSome_iff_exists.1 (Value.isSome_madeUp? hfields (kind_of_fieldArg? hfield))
  have hread := v.readField_eq isStatic name type
  rw [hfields, Option.bind_some, hmade, Option.map_some] at hread
  -- Either the row is there and stays, or it is filled with what is made up.
  cases hrow : fields.get? (fieldKey name type) with
  | some value =>
    rw [hrow] at hread
    refine ⟨v, fields, value, ?_, hfields, by simp [FieldAccess.apply], fun key => ?_⟩
    · simp only [getField, hfield, hargs, hread]
    · split
      case isTrue hkey => rw [← hkey, hrow]
      case isFalse => rfl
  | none =>
    rw [hrow] at hread
    refine ⟨v.setFields isStatic (fields.set (fieldKey name type) made), _, made, ?_, ?_,
      by simp [FieldAccess.apply, hmade], fun key => fields.get?_set _ key made⟩
    · simp only [getField, hfield, hargs, hread]
    · rw [Value.fields?_setFields, if_pos rfl, hfields, Option.map_some]

/-- A write puts its value into the field, and leaves all other fields as they are. -/
theorem setField_rows (hargs : c.args = v :: rest) (hfields : v.fields? isStatic = some fields)
    (hfield : c.fieldArg? = some (name, type)) {value : Note}
    (hvalue : c.storedArg? type = some value) :
    ∃ v' fields', c.setField isStatic = { c.returning [] with args := v' :: rest } ∧
      v'.fields? isStatic = some fields' ∧
      ∀ key, fields'.get? key =
        if fieldKey name type = key then some value else fields.get? key := by
  have hwrite := v.writeField_eq isStatic name type value
  rw [hfields, Option.map_some] at hwrite
  refine ⟨v.setFields isStatic (fields.set (fieldKey name type) value), _, ?_, ?_,
    fun key => fields.get?_set _ key value⟩
  · simp only [setField, hfield, hargs, hvalue, hwrite]
  · rw [Value.fields?_setFields, if_pos rfl, hfields, Option.map_some]

end Call

/-- A call that does not access fields of the given sort leaves them as they are. -/
theorem Behaviour.MayChange.fields? {behaviour : Behaviour} {c : Call} {v v' : Value}
    (h : behaviour.MayChange c v v') {isStatic : Bool}
    (hget : ∀ kind, behaviour ≠ .getField kind isStatic)
    (hset : ∀ kind, behaviour ≠ .setField kind isStatic) :
    v'.fields? isStatic = v.fields? isStatic := by
  cases behaviour with
  | getField kind isStatic' =>
    obtain ⟨_, _, -, fields, fields', -, -, rfl⟩ := h
    rw [Value.fields?_setFields, if_neg]
    rintro rfl
    exact hget kind rfl
  | setField kind isStatic' =>
    obtain ⟨_, _, -, fields, fields', -, -, rfl⟩ := h
    rw [Value.fields?_setFields, if_neg]
    rintro rfl
    exact hset kind rfl
  | invoke returns binding passing =>
    obtain ⟨-, o, icc, ho, rfl⟩ := h
    cases isStatic <;> simp [Value.fields?, ho]
  | _ => exact h.elim

/-- All fields of a value are accessed in the given way, and it becomes another value. -/
def Value.Accessed (v v' : Value) (isStatic : Bool) (access? : FieldKey → Option FieldAccess) :
    Prop :=
  ∀ fields, v.fields? isStatic = some fields →
    ∃ fields', v'.fields? isStatic = some fields' ∧ ∀ key, fields'.get? key =
      (access? key).toList.foldl (FieldAccess.apply (v.madeUp? isStatic)) (fields.get? key)

/-- Fields that stay as they are have not been accessed. -/
theorem Value.accessed_of_none {v v' : Value} {isStatic : Bool}
    {access? : FieldKey → Option FieldAccess} (hsame : v'.fields? isStatic = v.fields? isStatic)
    (hnone : ∀ key, access? key = none) : v.Accessed v' isStatic access? := by
  intro fields hfields
  refine ⟨fields, hsame.trans hfields, fun key => ?_⟩
  rw [hnone]
  rfl

namespace Behaviour

variable {c : Call} {v v' : Value} {rest : List Value} {isStatic : Bool}

/-- A read accesses the field that it is about. -/
theorem getField_accessed (kind : Kind) (hargs : c.args = v :: rest)
    (hargs' : (c.getField isStatic).args = v' :: rest) :
    v.Accessed v' isStatic (access? (.getField kind isStatic) c isStatic) := by
  cases hfield : c.fieldArg? with
  | none =>
    have hsame : (c.getField isStatic).args = c.args := by
      simp [Call.getField, hfield, Call.fallback]
    rw [hargs', hargs] at hsame
    cases hsame
    exact Value.accessed_of_none rfl fun key => by simp [access?, hfield]
  | some field =>
    obtain ⟨name, type⟩ := field
    intro fields hfields
    obtain ⟨w, fields', value, heffect, hfields', hvalue, hrows⟩ :=
      Call.getField_rows hargs hfields hfield
    rw [heffect] at hargs'
    cases hargs'
    refine ⟨fields', hfields', fun key => ?_⟩
    rw [hrows]
    by_cases hkey : fieldKey name type = key
    · simp [access?, hfield, hkey, ← hvalue]
    · simp [access?, hfield, hkey]

/-- A write accesses the field that it is about. -/
theorem setField_accessed (kind : Kind) (hargs : c.args = v :: rest)
    (hargs' : (c.setField isStatic).args = v' :: rest) :
    v.Accessed v' isStatic (access? (.setField kind isStatic) c isStatic) := by
  cases hfield : c.fieldArg? with
  | none =>
    have hsame : (c.setField isStatic).args = c.args := by
      simp [Call.setField, hfield, Call.fallback]
    rw [hargs', hargs] at hsame
    cases hsame
    exact Value.accessed_of_none rfl fun key => by simp [access?, hfield]
  | some field =>
    obtain ⟨name, type⟩ := field
    -- There is always something to store, for a value of the field's type can be made up.
    obtain ⟨value, hvalue⟩ : ∃ value, c.storedArg? type = some value := by
      have hfresh := JavaType.isSome_note? (Call.kind_of_fieldArg? hfield) .native
      refine Option.isSome_iff_exists.1 ?_
      simp [Call.storedArg?, hfresh]
    have haccess : ∀ key, access? (.setField kind isStatic) c isStatic key =
        if fieldKey name type = key then some (.write value) else none := by
      intro key
      rw [← Option.map_some, ← hvalue]
      simp [access?, hfield, Call.storedArg?]
    intro fields hfields
    obtain ⟨w, fields', heffect, hfields', hrows⟩ :=
      Call.setField_rows hargs hfields hfield hvalue
    rw [heffect] at hargs'
    cases hargs'
    refine ⟨fields', hfields', fun key => ?_⟩
    rw [hrows, haccess]
    by_cases hkey : fieldKey name type = key
    · simp [hkey, FieldAccess.apply]
    · simp [hkey]

/-- No other call accesses a field of the given sort. -/
theorem access?_eq_none {behaviour : Behaviour} (hget : ∀ kind, behaviour ≠ .getField kind isStatic)
    (hset : ∀ kind, behaviour ≠ .setField kind isStatic) (key : FieldKey) :
    behaviour.access? c isStatic key = none := by
  unfold access?
  split
  case h_1 kind isStatic' name type _ =>
    refine if_neg fun h => hget kind ?_
    rw [h.1]
  case h_2 kind isStatic' name type _ =>
    refine if_neg fun h => hset kind ?_
    rw [h.1]
  case h_3 => rfl

/-- A read is one of a type that a field can have. -/
theorem kind_of_access? {behaviour : Behaviour} {key : FieldKey} {type : JavaType}
    (h : behaviour.access? c isStatic key = some (.read type)) : type.kind ≠ .void := by
  unfold access? at h
  split at h
  case h_1 name type' hfield =>
    split at h
    case isTrue =>
      cases h
      exact Call.kind_of_fieldArg? hfield
    case isFalse => cases h
  case h_2 =>
    split at h
    case isTrue =>
      obtain ⟨value, -, heq⟩ := Option.map_eq_some_iff.1 h
      cases heq
    case isFalse => cases h
  case h_3 => cases h

/-- **One call.** Every field of the first argument is accessed as the call says, and in no other
way. -/
theorem effect_accessed (behaviour : Behaviour) (hargs : c.args = v :: rest)
    (hargs' : (behaviour.effect c).args = v' :: rest) (isStatic : Bool) :
    v.Accessed v' isStatic (behaviour.access? c isStatic) := by
  by_cases hget : ∃ kind, behaviour = .getField kind isStatic
  · obtain ⟨kind, rfl⟩ := hget
    exact getField_accessed kind hargs hargs'
  by_cases hset : ∃ kind, behaviour = .setField kind isStatic
  · obtain ⟨kind, rfl⟩ := hset
    exact setField_accessed kind hargs hargs'
  -- Any other call leaves these fields as they are.
  have hget' : ∀ kind, behaviour ≠ .getField kind isStatic := fun kind h => hget ⟨kind, h⟩
  have hset' : ∀ kind, behaviour ≠ .setField kind isStatic := fun kind h => hset ⟨kind, h⟩
  refine Value.accessed_of_none ?_ (access?_eq_none hget' hset')
  rcases behaviour.effect_frame c with hsame | ⟨x, x', rest', hx, hx', hmay⟩
  · rw [hargs', hargs] at hsame
    cases hsame
    rfl
  · rw [hargs] at hx
    rw [hargs'] at hx'
    cases hx
    cases hx'
    exact hmay.fields? hget' hset'

end Behaviour

/-! ### Functions that read fields -/

set_option maxRecDepth 20000 in
/-- A function of the interface that reads a field returns something. -/
theorem Interface.returns_of_getField {function : Function} (h : function ∈ functions) {kind : Kind}
    {isStatic : Bool} (hget : function.behaviour = .getField kind isStatic) : kind ≠ .void := by
  have hrows : ∀ row ∈ rows, ∀ isStatic, row.2.2 ≠ .getField .void isStatic := by decide
  rintro rfl
  exact hrows _ (List.mem_of_getElem? (row_of_mem h)) isStatic hget

namespace Replay

variable {catalog : Catalog} {r r' : Replay} {call : RecordedCall} {function : Function}
  {name : String} {isStatic : Bool} {key : FieldKey} {madeUp : JavaType → Option Note}
  {held : Option Note}

/-! ### One step -/

/-- The access to a field of a name that a call is. -/
def access? (catalog : Catalog) (isStatic : Bool) (name : String) (key : FieldKey) (r : Replay)
    (call : RecordedCall) : Option FieldAccess :=
  headEvent? (fun behaviour c => behaviour.access? c isStatic key) catalog name r call

/-- A name is bound to an object or a class that holds the given value in a field, and makes up the
values of others in the given way. -/
def Holds (r : Replay) (name : String) (isStatic : Bool) (key : FieldKey)
    (madeUp : JavaType → Option Note) (held : Option Note) : Prop :=
  ∃ v fields, r.bindings.find? name = some v ∧ v.fields? isStatic = some fields ∧
    fields.get? key = held ∧ v.madeUp? isStatic = madeUp

/-- **One call.** A call that does not give the name to its result, and has the name at one position
at most, leaves the name with a field that was accessed as the call says. -/
theorem Holds.step (h : r.Holds name isStatic key madeUp held)
    (hstep : r.step catalog call = .ok r') (hrun : r'.aborted = none)
    (hbinds : ¬ call.Binds name) (honce : call.args.count (.reference name) ≤ 1) :
    r'.Holds name isStatic key madeUp
      ((access? catalog isStatic name key r call).toList.foldl (FieldAccess.apply madeUp)
        held) := by
  obtain ⟨v, fields, hv, hfields, rfl, rfl⟩ := h
  obtain ⟨function, args, hmade, rfl⟩ := makes_of_step hstep hrun
  rw [access?, hmade.headEvent?_eq]
  -- Only the first argument has its fields accessed; at any other position the value is kept.
  by_cases hhead : call.args.head? = some (.reference name)
  · obtain ⟨v', rest, hargs, hargs', hbound⟩ := hmade.bound_head catalog hbinds hv hhead honce
    rw [reply, Behaviour.reply_effect] at hargs'
    obtain ⟨fields', hfields', hrows⟩ := function.behaviour.effect_accessed
      (show (r.view catalog args).args = v :: rest from hargs) hargs' isStatic fields hfields
    have hkeeps := function.behaviour.effect_keeps (r.view catalog args)
    rw [hargs', show (r.view catalog args).args = v :: rest from hargs] at hkeeps
    have hmadeUp := (List.forall₂_cons.1 hkeeps).1.madeUp? isStatic
    rw [if_pos hhead]
    exact ⟨v', fields', hbound, hfields', hrows key, hmadeUp⟩
  · rw [if_neg hhead]
    exact ⟨v, fields, hmade.bound_other catalog hbinds hv hhead, hfields, rfl, rfl⟩

/-! ### Whole runs -/

/-- The accesses to a field of a name by some calls, one after another. -/
def accesses (catalog : Catalog) (isStatic : Bool) (name : String) (key : FieldKey) :
    Replay → List RecordedCall → List FieldAccess :=
  history (fun behaviour c => behaviour.access? c isStatic key) catalog name

/-- All reads are of types that a field can have. -/
theorem kind_of_mem_accesses {type : JavaType} {calls : List RecordedCall}
    (h : .read type ∈ accesses catalog isStatic name key r calls) : type.kind ≠ .void := by
  obtain ⟨behaviour, c, haccess⟩ := exists_of_mem_history h
  exact Behaviour.kind_of_access? haccess

/-- **What the calls of a run do to a field** is what their accesses do, one after another. -/
theorem Holds.run {calls : List RecordedCall} (h : r.Holds name isStatic key madeUp held)
    (hcalls : r.run catalog calls = .ok r') (hrun : r'.aborted = none)
    (hquiet : ∀ call ∈ calls, ¬ call.Binds name ∧ call.args.count (.reference name) ≤ 1) :
    r'.Holds name isStatic key madeUp
      ((accesses catalog isStatic name key r calls).foldl (FieldAccess.apply madeUp) held) := by
  induction calls generalizing r held with
  | nil =>
    obtain rfl : r = r' := by simpa using hcalls
    exact h
  | cons call calls ih =>
    obtain ⟨s, hs, hrest⟩ := run_cons_eq_ok_iff.1 hcalls
    obtain ⟨hbinds, honce⟩ := hquiet call List.mem_cons_self
    -- The run goes on to its end, so it has not ended here.
    have hmid := (running_of_run hrest hrun).1
    have hnext := ih (h.step hs hmid hbinds honce) hrest
      fun call hmem => hquiet call (List.mem_cons_of_mem _ hmem)
    rw [accesses, history_cons hs, List.foldl_append]
    exact hnext

/-- **A read returns what the field holds.** Let a name be bound to an object, or to a class for
static fields, at some point of a run, and let a field of it be read later on. If no call in between
gives the name to its result or has it at two positions, the read succeeds, and exactly one thing is
known about its result: what was written last into the field; if nothing was, what the field held at
first; and if it held nothing, what the first read made up, be it an earlier one or this one.

Only calls that access the same field of the same name count as accesses, so no other call makes a
difference. -/
theorem read_field_contents {between : List RecordedCall} {v : Value} {fields : FieldTable Note}
    {r₁ : Replay} {args : List Value} {kind : Kind} {field : FieldIdentity} {type : JavaType}
    (hbound : r.bindings.find? name = some v) (hfields : v.fields? isStatic = some fields)
    (hbetween : r.run catalog between = .ok r₁)
    (hquiet : ∀ c ∈ between, ¬ c.Binds name ∧ c.args.count (.reference name) ≤ 1)
    (hmade : r₁.Makes call function args) (hget : function.behaviour = .getField kind isStatic)
    (howner : call.args.head? = some (.reference name))
    (hfield : args[1]?.bind Value.field? = some field)
    (htype : JavaType.ofText field.signature = .ok type) :
    ∃ r₂ result value, r₁.step catalog call = .ok r₂ ∧
      (r₁.reply catalog function args).value? = some result ∧ result.notes = [value] ∧
      (∀ next, call.bind = some next → r₂.bindings.find? next = some result) ∧
      FieldAccess.contents (v.madeUp? isStatic) (fields.get? (fieldKey field.fieldName type))
        (accesses catalog isStatic name (fieldKey field.fieldName type) r between ++ [.read type]) =
        some value := by
  have hholds : r.Holds name isStatic (fieldKey field.fieldName type) (v.madeUp? isStatic)
      (fields.get? (fieldKey field.fieldName type)) := ⟨v, fields, hbound, hfields, rfl, rfl⟩
  obtain ⟨v₁, fields₁, hv₁, hfields₁, hheld, hmadeUp⟩ := hholds.run hbetween hmade.running hquiet
  -- The owner is the first argument, and the second one identifies the field.
  obtain ⟨rest, hargs⟩ : ∃ rest, args = v₁ :: rest := by
    obtain ⟨callRest, hcall⟩ := List.head?_eq_some_iff.1 howner
    have hreference := hmade.reference hv₁
    rw [hcall] at hreference
    obtain ⟨x, rest, hx, -, hargs⟩ := List.forall₂_cons_left_iff.1 hreference
    exact ⟨rest, by rw [hargs, hx rfl]⟩
  have hfieldArg : (r₁.view catalog args).fieldArg? = some (field.fieldName, type) := by
    show (args[1]?.bind Value.field?).bind _ = _
    simp [hfield, htype]
  obtain ⟨v₂, fields₂, value, heffect, -, hvalue, -⟩ :=
    Call.getField_rows (show (r₁.view catalog args).args = v₁ :: rest from hargs) hfields₁ hfieldArg
  have hkind : kind ≠ .void :=
    Interface.returns_of_getField (Target.mem_of_resolve? hmade.target) hget
  obtain ⟨result, hresult, hnotes⟩ :=
    Behaviour.reply_result (show function.behaviour.returns ≠ .void from hget ▸ hkind)
      (by rw [hget]; exact nofun) (r₁.view catalog args)
  rw [hget, Behaviour.effect, heffect] at hnotes
  refine ⟨_, result, value, hmade.step_eq catalog, hresult, hnotes,
    fun next hbind => find?_bindings_settle_result hbind hresult, ?_⟩
  -- The accesses lead to what the field holds, if every read among them can make up a value.
  rw [← FieldAccess.foldl_apply, List.foldl_append, ← hheld, List.foldl_cons, List.foldl_nil,
    ← hmadeUp, hvalue]
  intro readType hmem
  refine Value.isSome_madeUp? hfields ?_
  rcases List.mem_append.1 hmem with hearlier | hlast
  · exact kind_of_mem_accesses hearlier
  · cases List.mem_singleton.1 hlast
    exact JavaType.kind_of_ofText htype

/-! ### A field that is read, written and read again -/

/-- A run that is handed a book and a person. -/
def loanTrace : Trace where
  memory := [⟨4096, .text "reader"⟩, ⟨4160, .text "LPerson;"⟩]
  inputs := [⟨"Book", .classObject "Book"⟩, ⟨"book", .object "Book" false []⟩,
    ⟨"person", .object "Person" true ["PII"]⟩]
  calls := [
    ⟨.function "GetFieldID", [.reference "Book", .address 4096, .address 4160], some "reader"⟩]

/-- The reader of the book is looked up. -/
def lookUpReader (result : String) : RecordedCall where
  target := .function "GetObjectField"
  args := [.reference "book", .reference "reader"]
  bind := some result

/-- The book is lent to a person. -/
def lendBook : RecordedCall where
  target := .function "SetObjectField"
  args := [.reference "book", .reference "reader", .reference "person"]

/-- What is known about the person. -/
def personNote : Note :=
  .object { source := .argument, javaType := "Person", taint := Taint.of .argument ["PII"] }

set_option maxRecDepth 20000 in
/-- The first look-up makes up a reader. The second one finds the person that the book was lent to
in between. -/
theorem read_field_contents_loan :
    ∃ r r₁ r₂ result, (start loanTrace).run {} loanTrace.calls = .ok r ∧
      r.run {} [lookUpReader "before", lendBook] = .ok r₁ ∧
      r₁.step {} (lookUpReader "after") = .ok r₂ ∧
      r₂.bindings.find? "after" = some result ∧ result.notes = [personNote] := by
  obtain ⟨r, v, fields, r₁, function, args, kind, field, type, hr, hv, hfields, hr₁, hmade, hget,
      hfield, htype, hcontents⟩ :
      ∃ r v fields r₁ function args kind field type,
        (start loanTrace).run {} loanTrace.calls = .ok r ∧ r.bindings.find? "book" = some v ∧
        v.fields? false = some fields ∧ r.run {} [lookUpReader "before", lendBook] = .ok r₁ ∧
        r₁.Makes (lookUpReader "after") function args ∧
        function.behaviour = .getField kind false ∧ args[1]?.bind Value.field? = some field ∧
        JavaType.ofText field.signature = .ok type ∧
        FieldAccess.contents (v.madeUp? false) (fields.get? (fieldKey field.fieldName type))
          (accesses {} false "book" (fieldKey field.fieldName type) r
            [lookUpReader "before", lendBook] ++ [.read type]) = some personNote :=
    ⟨_, _, _, _, _, _, _, _, _, rfl, rfl, rfl, rfl, ⟨rfl, rfl, by decide, rfl⟩, rfl, rfl, rfl, rfl⟩
  have hquiet : ∀ c ∈ [lookUpReader "before", lendBook],
      ¬ c.Binds "book" ∧ c.args.count (.reference "book") ≤ 1 := by
    have hnames : ∀ c ∈ [lookUpReader "before", lendBook],
        c.bind ≠ some "book" ∧ c.args.count (.reference "book") ≤ 1 := by decide
    exact fun c hc => (hnames c hc).imp_left fun hbind hbinds => hbind hbinds.1
  obtain ⟨r₂, result, value, hstep, -, hnotes, hbound, hvalue⟩ :=
    read_field_contents hv hfields hr₁ hquiet hmade hget rfl hfield htype
  obtain rfl : personNote = value := Option.some.inj (hcontents.symm.trans hvalue)
  exact ⟨r, r₁, r₂, result, hr, hr₁, hstep, hbound "after" rfl, hnotes⟩

end Replay

end NativeFlow
