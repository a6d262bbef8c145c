import NativeFlow.Call.Field
import NativeFlow.Proofs.Position
import NativeFlow.Proofs.Related

namespace NativeFlow

/-!
# Similar notes and values

Two values are similar when they differ in nothing but taint, at any depth, and the taint at each
position is related by a relation `R`.

* `Note.Similar`, `Value.Similar`: the relation. It is built up like the data: rows and extras are
  related one by one under the same keys (`SameKey`).
* `TaintRelation`: what `R` needs so that joins of taint keep it.
* `Note.Similar.at?`: similar notes have the same positions, with similar notes at them.
* `Value.Similar.object?` and its like: look-ups in similar values find similar things.
* `TaintRelation.readField`, `Value.Similar.writeField`: field access keeps values similar.
-/

/-! ### The relation -/

/-- Pairs with the same key and related values. -/
inductive SameKey {κ α β : Type} (S : α → β → Prop) : κ × α → κ × β → Prop
  | mk (key : κ) {a : α} {b : β} (value : S a b) : SameKey S (key, a) (key, b)

/-- Inter-component state with the same keys and related extras. -/
inductive IccState.Similar {α β : Type} (S : α → β → Prop) : IccState α → IccState β → Prop
  | mk (isIcc : Bool) (activityName : Option String) {extras : List (String × Option α)}
      {extras' : List (String × Option β)}
      (extras_similar : List.Forall₂ (SameKey (Option.Rel S)) extras extras') :
    IccState.Similar S ⟨isIcc, activityName, extras⟩ ⟨isIcc, activityName, extras'⟩

/-- Classes of the same name with related fields. -/
inductive ClassIdentity.Similar {α β : Type} (S : α → β → Prop) :
    ClassIdentity α → ClassIdentity β → Prop
  | mk (className : String) {rows : List (FieldKey × α)} {rows' : List (FieldKey × β)}
      (rows_similar : List.Forall₂ (SameKey S) rows rows') :
    ClassIdentity.Similar S ⟨className, ⟨rows⟩⟩ ⟨className, ⟨rows'⟩⟩

/-- Objects of the same source and type with related fields, taint and state. -/
inductive ObjectIdentity.Similar {α β : Type} (R : Taint → Taint → Prop) (S : α → β → Prop) :
    ObjectIdentity α → ObjectIdentity β → Prop
  | mk (source : Provenance) (javaType : String) {rows : List (FieldKey × α)}
      {rows' : List (FieldKey × β)} {taint taint' : Taint} {icc : Option (IccState α)}
      {icc' : Option (IccState β)} (rows_similar : List.Forall₂ (SameKey S) rows rows')
      (taint_related : R taint taint') (icc_similar : Option.Rel (IccState.Similar S) icc icc') :
    ObjectIdentity.Similar R S ⟨source, javaType, ⟨rows⟩, taint, icc⟩
      ⟨source, javaType, ⟨rows'⟩, taint', icc'⟩

/-- Primitive values of the same source and type with related taint. -/
inductive PrimitiveValue.Similar (R : Taint → Taint → Prop) :
    PrimitiveValue → PrimitiveValue → Prop
  | mk (source : Provenance) (javaType : String) {taint taint' : Taint}
      (taint_related : R taint taint') :
    PrimitiveValue.Similar R ⟨source, javaType, taint⟩ ⟨source, javaType, taint'⟩

/-- Notes that differ in nothing but taint, with related taint at each position. -/
inductive Note.Similar (R : Taint → Taint → Prop) : Note → Note → Prop
  | classIdentity {k k' : ClassIdentity Note} (h : ClassIdentity.Similar (Note.Similar R) k k') :
    Note.Similar R (.classIdentity k) (.classIdentity k')
  | object {o o' : ObjectIdentity Note} (h : ObjectIdentity.Similar R (Note.Similar R) o o') :
    Note.Similar R (.object o) (.object o')
  | string (literal : StringLiteral) : Note.Similar R (.string literal) (.string literal)
  | method (identity : MethodIdentity) : Note.Similar R (.method identity) (.method identity)
  | field (identity : FieldIdentity) : Note.Similar R (.field identity) (.field identity)
  | primitive {p p' : PrimitiveValue} (h : PrimitiveValue.Similar R p p') :
    Note.Similar R (.primitive p) (.primitive p')

/-- Values with the same handle and width and similar notes. -/
structure Value.Similar (R : Taint → Taint → Prop) (v v' : Value) : Prop where
  handle : v.handle = v'.handle
  bits : v.bits = v'.bits
  notes : List.Forall₂ (Note.Similar R) v.notes v'.notes

/-- What a relation of taint needs so that joins keep it. -/
structure TaintRelation (R : Taint → Taint → Prop) : Prop where
  refl : ∀ t, R t t
  absorb : ∀ {t t' s s'}, R t t' → R s s' → R (t.absorb s) (t'.absorb s')

/-! ### Positions -/

namespace Note.Similar

variable {R : Taint → Taint → Prop} {n n' : Note}

/-- Similar notes are of the same kind, so `Value.attach` treats them alike. -/
theorem tag (h : Note.Similar R n n') : n.tag = n'.tag := by
  cases h <;> rfl

/-- Either both notes carry taint or neither does, and what they carry is related by `R`. -/
theorem taint? (h : Note.Similar R n n') : Option.Rel R n.taint? n'.taint? := by
  cases h with
  | object h =>
    obtain ⟨_, _, _, htaint, _⟩ := h
    exact .some htaint
  | primitive h =>
    obtain ⟨_, _, htaint⟩ := h
    exact .some htaint
  | _ => exact .none

/-- The field rows of similar notes have the same keys in the same order. -/
theorem rows (h : Note.Similar R n n') :
    List.Forall₂ (SameKey (Note.Similar R)) n.rows n'.rows := by
  cases h with
  | classIdentity h =>
    obtain ⟨_, hrows⟩ := h
    exact hrows
  | object h =>
    obtain ⟨_, _, hrows, _, _⟩ := h
    exact hrows
  | _ => exact .nil

/-- So do the extras, and an extra without a note is without one on both sides. -/
theorem extras (h : Note.Similar R n n') :
    List.Forall₂ (SameKey (Option.Rel (Note.Similar R))) n.extras n'.extras := by
  cases h with
  | object h =>
    obtain ⟨_, _, _, _, hicc⟩ := h
    -- Only objects carry inter-component state, and they carry it together.
    cases hicc with
    | some hicc =>
      obtain ⟨_, _, hextras⟩ := hicc
      exact hextras
    | none => exact .nil
  | _ => exact .nil

/-- One step down: similar notes have the same children, and these are similar. -/
theorem child? (h : Note.Similar R n n') (step : Note.Step) :
    Option.Rel (Note.Similar R) (n.child? step) (n'.child? step) := by
  cases step with
  | row index =>
    refine rel_map ?_ (rel_getElem? h.rows index)
    rintro _ _ ⟨_, hvalue⟩
    exact hvalue
  | extra index =>
    refine rel_bind ?_ (rel_getElem? h.extras index)
    rintro _ _ ⟨_, hvalue⟩
    exact hvalue

/-- **Positions.** Similar notes have the same positions, with similar notes at them. -/
theorem at? (h : Note.Similar R n n') (path : List Note.Step) :
    Option.Rel (Note.Similar R) (n.at? path) (n'.at? path) := by
  -- Induction on the path: `child?` is its step.
  induction path generalizing n n' with
  | nil => exact .some h
  | cons step path ih => exact rel_bind (fun _ _ hchild => ih hchild) (h.child? step)

end Note.Similar

/-! ### Look-ups -/

namespace Value.Similar

variable {R : Taint → Taint → Prop} {v v' : Value}

/-- The object identities that `Value.object?` finds in similar values are similar. -/
theorem object? (h : Value.Similar R v v') :
    Option.Rel (ObjectIdentity.Similar R (Note.Similar R)) v.object? v'.object? := by
  refine rel_findSome? ?_ h.notes
  intro n n' hn
  cases hn with
  | object h => exact .some h
  | _ => exact .none

/-- The class identities that `Value.class?` finds are similar. -/
theorem class? (h : Value.Similar R v v') :
    Option.Rel (ClassIdentity.Similar (Note.Similar R)) v.class? v'.class? := by
  refine rel_findSome? ?_ h.notes
  intro n n' hn
  cases hn with
  | classIdentity h => exact .some h
  | _ => exact .none

/-- The primitive values that `Value.primitive?` finds are similar. -/
theorem primitive? (h : Value.Similar R v v') :
    Option.Rel (PrimitiveValue.Similar R) v.primitive? v'.primitive? := by
  refine rel_findSome? ?_ h.notes
  intro n n' hn
  cases hn with
  | primitive h => exact .some h
  | _ => exact .none

/-- Literals carry no taint, so `Value.literal?` finds the same one in similar values. -/
theorem literal? (h : Value.Similar R v v') : v.literal? = v'.literal? := by
  refine eq_of_rel (rel_findSome? ?_ h.notes)
  intro n n' hn
  cases hn with
  | string literal => exact .some rfl
  | _ => exact .none

/-- Method identities carry no taint: `Value.method?` finds the same one. -/
theorem method? (h : Value.Similar R v v') : v.method? = v'.method? := by
  refine eq_of_rel (rel_findSome? ?_ h.notes)
  intro n n' hn
  cases hn with
  | method identity => exact .some rfl
  | _ => exact .none

theorem field? (h : Value.Similar R v v') : v.field? = v'.field? := by
  refine eq_of_rel (rel_findSome? ?_ h.notes)
  intro n n' hn
  cases hn with
  | field identity => exact .some rfl
  | _ => exact .none

/-- The name of a class is not taint, whatever the fields of the class hold. -/
theorem className? (h : Value.Similar R v v') : v.className? = v'.className? := by
  refine eq_of_rel (rel_map ?_ h.class?)
  rintro _ _ ⟨_, _⟩
  rfl

/-- `Value.taint?` of similar values: the taint of the object, or else of the primitive value. -/
theorem taint? (h : Value.Similar R v v') : Option.Rel R v.taint? v'.taint? := by
  refine rel_or (rel_map ?_ h.object?) (rel_map ?_ h.primitive?)
  · rintro _ _ ⟨_, _, _, htaint, _⟩
    exact htaint
  · rintro _ _ ⟨_, _, htaint⟩
    exact htaint

/-- What is stored when a value is put into a field or an extra: its object, its literal or its
primitive value, in this order. -/
theorem payload? (h : Value.Similar R v v') :
    Option.Rel (Note.Similar R) v.payload? v'.payload? := by
  refine rel_or (rel_map (fun _ _ => .object) h.object?) (rel_or ?_ (rel_map (fun _ _ => .primitive)
    h.primitive?))
  rw [h.literal?]
  cases v'.literal? with
  | some literal => exact .some (.string literal)
  | none => exact .none

/-! ### Changes -/

/-- `Value.attach` of similar notes to similar lists of notes. -/
theorem attach {note note' : Note} (hnote : Note.Similar R note note') {notes notes' : List Note}
    (h : List.Forall₂ (Note.Similar R) notes notes') :
    List.Forall₂ (Note.Similar R) (Value.attach note notes) (Value.attach note' notes') := by
  induction h with
  | nil => exact .cons hnote .nil
  | cons hother hrest ih =>
    -- Similar notes are of the same kind, so both are put in the same place.
    simp only [Value.attach, hother.tag, hnote.tag]
    split
    · exact .cons hnote hrest
    · exact .cons hother ih

/-- `Value.setObject` keeps values similar when the objects are. -/
theorem setObject (h : Value.Similar R v v') {o o' : ObjectIdentity Note}
    (ho : ObjectIdentity.Similar R (Note.Similar R) o o') :
    Value.Similar R (v.setObject o) (v'.setObject o') :=
  ⟨h.handle, h.bits, attach (.object ho) h.notes⟩

/-- `Value.setClass` keeps values similar when the classes are. -/
theorem setClass (h : Value.Similar R v v') {k k' : ClassIdentity Note}
    (hk : ClassIdentity.Similar (Note.Similar R) k k') :
    Value.Similar R (v.setClass k) (v'.setClass k') :=
  ⟨h.handle, h.bits, attach (.classIdentity hk) h.notes⟩

end Value.Similar

/-! ### Field tables -/

section

variable {α β : Type} {S : α → β → Prop}

/-- `FieldTable.lookup` in tables with the same keys finds a row in both or in neither. -/
theorem rel_lookup {rows : List (FieldKey × α)} {rows' : List (FieldKey × β)}
    (h : List.Forall₂ (SameKey S) rows rows') (key : FieldKey) :
    Option.Rel S (FieldTable.lookup key rows) (FieldTable.lookup key rows') := by
  induction h with
  | nil => exact .none
  | cons hrow _ ih =>
    obtain ⟨k, hvalue⟩ := hrow
    by_cases hk : k = key
    · simpa [FieldTable.lookup, hk] using hvalue
    · simpa [FieldTable.lookup, hk] using ih

/-- `FieldTable.store` of related values changes the row of `key` in both tables, or adds one to
both. -/
theorem rel_store {rows : List (FieldKey × α)} {rows' : List (FieldKey × β)}
    (h : List.Forall₂ (SameKey S) rows rows') (key : FieldKey) {a : α} {b : β} (hab : S a b) :
    List.Forall₂ (SameKey S) (FieldTable.store key a rows) (FieldTable.store key b rows') := by
  induction h with
  | nil => exact .cons ⟨key, hab⟩ .nil
  | cons hrow hrest ih =>
    obtain ⟨k, hvalue⟩ := hrow
    simp only [FieldTable.store]
    -- The keys are the same on both sides, so there is one comparison to split on.
    split
    · exact .cons ⟨k, hab⟩ hrest
    · exact .cons ⟨k, hvalue⟩ ih

/-- `Assoc.insert` of related values keeps entries under the same keys, in the order of the keys. -/
theorem rel_insert {κ : Type} [Ord κ] {entries : List (κ × α)} {entries' : List (κ × β)}
    (h : List.Forall₂ (SameKey S) entries entries') (key : κ) {a : α} {b : β} (hab : S a b) :
    List.Forall₂ (SameKey S) (Assoc.insert key a entries) (Assoc.insert key b entries') := by
  induction h with
  | nil => exact .cons ⟨key, hab⟩ .nil
  | cons hentry hrest ih =>
    obtain ⟨k, hvalue⟩ := hentry
    simp only [Assoc.insert]
    split
    · exact .cons ⟨key, hab⟩ (.cons ⟨k, hvalue⟩ hrest)
    · exact .cons ⟨key, hab⟩ hrest
    · exact .cons ⟨k, hvalue⟩ ih

end

/-! ### Fresh notes and field access -/

namespace TaintRelation

variable {R : Taint → Taint → Prop} (hR : TaintRelation R)

include hR

/-- A fresh object of a type is similar to itself: its taint is clean and it has no fields. -/
theorem ofType (source : Provenance) (javaType : String) :
    ObjectIdentity.Similar R (Note.Similar R) (.ofType source javaType)
      (.ofType source javaType) := by
  refine .mk source javaType .nil (hR.refl _) ?_
  split
  · exact .some (.mk _ _ .nil)
  · exact .none

/-- A fresh note of a type is similar to itself. -/
theorem note? (type : JavaType) (source : Provenance) :
    Option.Rel (Note.Similar R) (type.note? source) (type.note? source) := by
  unfold JavaType.note?
  -- One goal for each kind of type: void, primitive, object, array and string.
  split
  · exact .none
  · exact .some (.primitive (.mk _ _ (hR.refl _)))
  · exact .some (.object (hR.ofType _ _))
  · exact .some (.object (hR.ofType _ _))
  · exact .some (.object (hR.ofType _ _))

/-- `Note.absorb` of related taint keeps notes similar. A note that carries no taint is left as it
is. -/
theorem note_absorb {n n' : Note} (h : Note.Similar R n n') {t t' : Taint} (ht : R t t') :
    Note.Similar R (n.absorb t) (n'.absorb t') := by
  cases h with
  | object h =>
    obtain ⟨source, javaType, hrows, htaint, hicc⟩ := h
    exact .object (.mk source javaType hrows (hR.absorb htaint ht) hicc)
  | primitive h =>
    obtain ⟨source, javaType, htaint⟩ := h
    exact .primitive (.mk source javaType (hR.absorb htaint ht))
  | classIdentity h => exact .classIdentity h
  | string literal => exact .string literal
  | method identity => exact .method identity
  | field identity => exact .field identity

/-- The taint given to a field that is not there yet: `ObjectIdentity.missTaint` joins that of the
object to a constant. -/
theorem missTaint {o o' : ObjectIdentity Note}
    (h : ObjectIdentity.Similar R (Note.Similar R) o o') : R o.missTaint o'.missTaint := by
  obtain ⟨_, _, _, htaint, _⟩ := h
  exact hR.absorb (hR.refl _) htaint

/-- `FieldTable.read` of similar tables: the notes read are similar, and so are the tables left
behind. -/
theorem fields_read {rows rows' : List (FieldKey × Note)}
    (h : List.Forall₂ (SameKey (Note.Similar R)) rows rows') (name : String) (type : JavaType)
    (source : Provenance) {t t' : Taint} (ht : R t t') :
    Option.Rel (fun x x' : Note × FieldTable Note => Note.Similar R x.1 x'.1 ∧
        List.Forall₂ (SameKey (Note.Similar R)) x.2.rows x'.2.rows)
      (FieldTable.read ⟨rows⟩ name type source t)
      (FieldTable.read ⟨rows'⟩ name type source t') := by
  have hfound := rel_lookup h (fieldKey name type)
  simp only [FieldTable.read, FieldTable.get?]
  -- A row that is there in one table is there in both; a missing one is made up in both.
  split <;> split <;> simp_all only [Option.not_rel_some_none, Option.not_rel_none_some]
  · cases hfound with
    | some hvalue => exact .some ⟨hvalue, h⟩
  · refine rel_map (fun fresh fresh' hfresh => ?_) (hR.note? type source)
    have hvalue := hR.note_absorb hfresh ht
    exact ⟨hvalue, rel_store h _ hvalue⟩

/-- **Reading a field.** `Value.readField` on similar values fails on both or on neither; the notes
read and the values left behind are similar. -/
theorem readField {v v' : Value} (h : Value.Similar R v v') (isStatic : Bool) (name : String)
    (type : JavaType) :
    Option.Rel (fun x x' : Note × Value => Note.Similar R x.1 x'.1 ∧ Value.Similar R x.2 x'.2)
      (v.readField isStatic name type) (v'.readField isStatic name type) := by
  -- A static field is one of the class, any other one of the object.
  unfold Value.readField
  split
  · refine rel_map (P := fun x x' : Note × ClassIdentity Note => Note.Similar R x.1 x'.1 ∧
      ClassIdentity.Similar (Note.Similar R) x.2 x'.2) (fun _ _ hx => ⟨hx.1, h.setClass hx.2⟩) ?_
    refine rel_bind ?_ h.class?
    rintro _ _ ⟨className, hrows⟩
    have hread := hR.fields_read hrows name type .classField (hR.refl ClassIdentity.missTaint)
    exact rel_map (fun _ _ hx => ⟨hx.1, .mk className hx.2⟩) hread
  · refine rel_map (P := fun x x' : Note × ObjectIdentity Note => Note.Similar R x.1 x'.1 ∧
      ObjectIdentity.Similar R (Note.Similar R) x.2 x'.2)
      (fun _ _ hx => ⟨hx.1, h.setObject hx.2⟩) ?_
    refine rel_bind ?_ h.object?
    intro o o' ho
    have hmiss := hR.missTaint ho
    obtain ⟨source, javaType, hrows, htaint, hicc⟩ := ho
    have hread := hR.fields_read hrows name type .objectField hmiss
    exact rel_map (fun _ _ hx => ⟨hx.1, .mk source javaType hx.2 htaint hicc⟩) hread

end TaintRelation

/-- **Writing a field.** `Value.writeField` of similar notes to similar values fails on both or on
neither and leaves similar values behind. -/
theorem Value.Similar.writeField {R : Taint → Taint → Prop} {v v' : Value}
    (h : Value.Similar R v v') (isStatic : Bool) (name : String) (type : JavaType) {n n' : Note}
    (hn : Note.Similar R n n') :
    Option.Rel (Value.Similar R) (v.writeField isStatic name type n)
      (v'.writeField isStatic name type n') := by
  unfold Value.writeField
  split
  · refine rel_map ?_ h.class?
    rintro _ _ ⟨className, hrows⟩
    exact h.setClass (.mk className (rel_store hrows _ hn))
  · refine rel_map ?_ h.object?
    rintro _ _ ⟨source, javaType, hrows, htaint, hicc⟩
    exact h.setObject (.mk source javaType (rel_store hrows _ hn) htaint hicc)

end NativeFlow
