import NativeFlow.Call.Field
import NativeFlow.Proofs.Position
import NativeFlow.Proofs.Value

namespace NativeFlow

/-!
# The fields of a value

An object has fields, and a class has static ones. Both kinds of access go the same way: a table is
looked up in the value, a row of it is read or written, and the table is put back.

* `FieldTable.RowChanged`: the row of one key is changed and no other. It is all that storing a
  value does to a table (`FieldTable.rowChanged_set`).
* `Value.fields?`, `Value.setFields`: the table of either kind in a value.
* `Value.madeUp?`: what a field becomes that is read before it has a value.
* `Value.readField_eq`, `Value.writeField_eq`: field access in these terms.
* `Value.Owner`: the note that has the fields. Its `Note.missTaint` is the taint of what is made up.
-/

/-! ### Tables -/

namespace FieldTable

/-- A row after `FieldTable.store` is the new one, or was there before. -/
theorem mem_store {key : FieldKey} {value : Note} {rows : List (FieldKey × Note)}
    {row : FieldKey × Note} (h : row ∈ store key value rows) : row = (key, value) ∨ row ∈ rows := by
  induction rows with
  | nil => simpa [store] using h
  | cons head rest ih =>
    obtain ⟨k, old⟩ := head
    by_cases hk : k = key
    · simp only [store, hk, if_true] at h
      rcases List.mem_cons.1 h with h | h
      · exact .inl h
      · exact .inr (List.mem_cons_of_mem _ h)
    · simp only [store, hk, if_false] at h
      rcases List.mem_cons.1 h with h | h
      · exact .inr (h ▸ List.mem_cons_self)
      · exact (ih h).imp_right (List.mem_cons_of_mem _)

/-- A key that has a row keeps it; any other key gets the last one. -/
theorem map_fst_store (key : FieldKey) (value : Note) (rows : List (FieldKey × Note)) :
    (store key value rows).map Prod.fst =
      if key ∈ rows.map Prod.fst then rows.map Prod.fst else rows.map Prod.fst ++ [key] := by
  induction rows with
  | nil => simp [store]
  | cons head rest ih =>
    obtain ⟨k, old⟩ := head
    by_cases hk : k = key
    · simp [store, hk]
    · simp only [store, hk, if_false, List.map_cons, ih, List.mem_cons, Ne.symm hk, false_or]
      split <;> rfl

/-- What `FieldTable.lookup` finds is the value of a row. -/
theorem mem_of_lookup {key : FieldKey} {value : Note} {rows : List (FieldKey × Note)}
    (h : lookup key rows = some value) : ∃ row ∈ rows, row.2 = value := by
  induction rows with
  | nil => cases h
  | cons head rest ih =>
    obtain ⟨k, v⟩ := head
    simp only [lookup] at h
    split at h
    · cases h
      exact ⟨(k, value), List.mem_cons_self, rfl⟩
    · obtain ⟨row, hmem, hrow⟩ := ih h
      exact ⟨row, List.mem_cons_of_mem _ hmem, hrow⟩

/-- `RowChanged key table table'`: the row of `key` gets another value in its place, or a row for
the key is added at the end. -/
inductive RowChanged (key : FieldKey) : FieldTable Note → FieldTable Note → Prop
  | replaced (before after : List (FieldKey × Note)) (old new : Note) :
    RowChanged key ⟨before ++ (key, old) :: after⟩ ⟨before ++ (key, new) :: after⟩
  | added (rows : List (FieldKey × Note)) (new : Note) (hnew : key ∉ rows.map Prod.fst) :
    RowChanged key ⟨rows⟩ ⟨rows ++ [(key, new)]⟩

/-- One more row in front makes no difference, unless it is the row that is changed. -/
theorem RowChanged.cons {key : FieldKey} {rows rows' : List (FieldKey × Note)}
    (h : RowChanged key ⟨rows⟩ ⟨rows'⟩) {row : FieldKey × Note} (hrow : row.1 ≠ key) :
    RowChanged key ⟨row :: rows⟩ ⟨row :: rows'⟩ := by
  cases h with
  | replaced before after old new => exact .replaced (row :: before) after old new
  | added rows new hnew =>
    refine .added (row :: rows) new ?_
    rw [List.map_cons, List.mem_cons]
    rintro (heq | hmem)
    · exact hrow heq.symm
    · exact hnew hmem

/-- `FieldTable.set` changes the row of its key and no other. -/
theorem rowChanged_set (table : FieldTable Note) (key : FieldKey) (value : Note) :
    RowChanged key table (table.set key value) := by
  obtain ⟨rows⟩ := table
  show RowChanged key ⟨rows⟩ ⟨store key value rows⟩
  induction rows with
  | nil => exact .added [] value List.not_mem_nil
  | cons row rest ih =>
    obtain ⟨k, old⟩ := row
    -- The first row is the one of the key, or it stays in front of what is changed behind it.
    by_cases hk : k = key
    · subst hk
      rw [store, if_pos rfl]
      exact .replaced [] rest old value
    · rw [store, if_neg hk]
      exact ih.cons hk

end FieldTable

/-! ### Values -/

namespace Value

/-- The static fields of the class, or the fields of the object, that a value stands for. -/
def fields? (v : Value) (isStatic : Bool) : Option (FieldTable Note) :=
  if isStatic then v.class?.map (·.fields) else v.object?.map (·.fields)

/-- Replaces those fields, where there are any. -/
def setFields (v : Value) (isStatic : Bool) (fields : FieldTable Note) : Value :=
  if isStatic then
    match v.class? with
    | some k => v.setClass { k with fields }
    | none => v
  else
    match v.object? with
    | some o => v.setObject { o with fields }
    | none => v

/-- What a field of the given type becomes that is read before it has a value. Its taint comes from
its owner. -/
def madeUp? (v : Value) (isStatic : Bool) (type : JavaType) : Option Note :=
  if isStatic then (type.note? .classField).map (·.absorb ClassIdentity.missTaint)
  else v.object?.bind fun o => (type.note? .objectField).map (·.absorb o.missTaint)

variable (v : Value)

/-- `Value.fields?` finds the table that `Value.setFields` has put there, and the one of the other
kind as before. -/
theorem fields?_setFields (isStatic isStatic' : Bool) (fields : FieldTable Note) :
    (v.setFields isStatic fields).fields? isStatic' =
      if isStatic' = isStatic then (v.fields? isStatic).map fun _ => fields
      else v.fields? isStatic' := by
  cases isStatic with
  | true =>
    cases hk : v.class? with
    | none => cases isStatic' <;> simp [setFields, fields?, hk]
    | some k => cases isStatic' <;> simp [setFields, fields?, hk]
  | false =>
    cases ho : v.object? with
    | none => cases isStatic' <;> simp [setFields, fields?, ho]
    | some o => cases isStatic' <;> simp [setFields, fields?, ho]

/-- **Reading, in terms of tables.** `Value.readField` finds the row of the field, or makes up a
value and keeps it. -/
theorem readField_eq (isStatic : Bool) (name : String) (type : JavaType) :
    v.readField isStatic name type =
      (v.fields? isStatic).bind fun fields =>
        match fields.get? (fieldKey name type) with
        | some value => some (value, v)
        | none =>
          (v.madeUp? isStatic type).map fun value =>
            (value, v.setFields isStatic (fields.set (fieldKey name type) value)) := by
  cases isStatic with
  | true =>
    cases hk : v.class? with
    | none => simp [readField, fields?, hk]
    | some k =>
      -- A row that is found is put back as it was, which changes nothing.
      cases hrow : k.fields.get? (fieldKey name type) with
      | some value =>
        simp [readField, fields?, hk, ClassIdentity.readField, FieldTable.read, hrow,
          setClass_self hk]
      | none =>
        simp [readField, fields?, hk, ClassIdentity.readField, FieldTable.read, hrow, madeUp?,
          setFields, Option.map_map, Function.comp_def]
  | false =>
    cases ho : v.object? with
    | none => simp [readField, fields?, ho]
    | some o =>
      cases hrow : o.fields.get? (fieldKey name type) with
      | some value =>
        simp [readField, fields?, ho, ObjectIdentity.readField, FieldTable.read, hrow,
          setObject_self ho]
      | none =>
        simp [readField, fields?, ho, ObjectIdentity.readField, FieldTable.read, hrow, madeUp?,
          setFields, Option.map_map, Function.comp_def]

/-- **Writing, in terms of tables.** `Value.writeField` puts the value into the row of the field. -/
theorem writeField_eq (isStatic : Bool) (name : String) (type : JavaType) (value : Note) :
    v.writeField isStatic name type value =
      (v.fields? isStatic).map fun fields =>
        v.setFields isStatic (fields.set (fieldKey name type) value) := by
  cases isStatic with
  | true =>
    cases hk : v.class? with
    | none => simp [writeField, fields?, hk]
    | some k => simp [writeField, fields?, hk, setFields, ClassIdentity.writeField]
  | false =>
    cases ho : v.object? with
    | none => simp [writeField, fields?, ho]
    | some o => simp [writeField, fields?, ho, setFields, ObjectIdentity.writeField]

end Value

/-! ### Owners -/

namespace Note

/-- Replaces the fields that a note has. -/
def setFields (fields : FieldTable Note) : Note → Note
  | .classIdentity identity => .classIdentity { identity with fields }
  | .object identity => .object { identity with fields }
  | other => other

/-- The taint of a field value that is made up for a class or an object. -/
def missTaint : Note → Taint
  | .classIdentity _ => ClassIdentity.missTaint
  | .object identity => identity.missTaint
  | _ => .clean

@[simp] theorem missTaint_setFields (fields : FieldTable Note) (n : Note) :
    (n.setFields fields).missTaint = n.missTaint := by
  cases n <;> rfl

@[simp] theorem extras_setFields (fields : FieldTable Note) (n : Note) :
    (n.setFields fields).extras = n.extras := by
  cases n <;> rfl

@[simp] theorem taint?_setFields (fields : FieldTable Note) (n : Note) :
    (n.setFields fields).taint? = n.taint? := by
  cases n <;> rfl

end Note

/-- There is a fresh note for every type but void. -/
theorem JavaType.isSome_note? {type : JavaType} (h : type.kind ≠ .void) (source : Provenance) :
    (type.note? source).isSome := by
  unfold note?
  split
  case h_1 hvoid => exact absurd hvoid h
  all_goals rfl

/-- A fresh note of a type records taint, and it is clean. -/
theorem JavaType.taint?_note? {type : JavaType} {source : Provenance} {n : Note}
    (h : type.note? source = some n) : n.taint? = some .clean := by
  unfold note? at h
  split at h <;> cases h <;> rfl

/-- The note of a value that has its static fields, or the fields of its object. -/
inductive Value.Owner (v : Value) : Bool → Note → Prop
  | classIdentity {k : ClassIdentity Note} (h : v.class? = some k) : Owner v true (.classIdentity k)
  | object {o : ObjectIdentity Note} (h : v.object? = some o) : Owner v false (.object o)

namespace Value

/-- The table of a value is that of a note of it. -/
theorem exists_owner {v : Value} {isStatic : Bool} {fields : FieldTable Note}
    (h : v.fields? isStatic = some fields) : ∃ n, v.Owner isStatic n ∧ n.rows = fields.rows := by
  cases isStatic with
  | true =>
    obtain ⟨k, hk, rfl⟩ := Option.map_eq_some_iff.1 h
    exact ⟨_, .classIdentity hk, rfl⟩
  | false =>
    obtain ⟨o, ho, rfl⟩ := Option.map_eq_some_iff.1 h
    exact ⟨_, .object ho, rfl⟩

namespace Owner

variable {v : Value} {isStatic : Bool} {n : Note}

/-- The owner is one of the notes. -/
theorem mem (h : v.Owner isStatic n) : n ∈ v.notes := by
  cases h with
  | classIdentity hk => exact mem_of_class? hk
  | object ho => exact mem_of_object? ho

theorem rows_setFields (h : v.Owner isStatic n) (fields : FieldTable Note) :
    (n.setFields fields).rows = fields.rows := by
  cases h <;> rfl

/-- When the fields of a value are replaced, its owner changes and no other note does. -/
theorem mem_setFields (h : v.Owner isStatic n) {fields : FieldTable Note} {m : Note}
    (hm : m ∈ (v.setFields isStatic fields).notes) : m = n.setFields fields ∨ m ∈ v.notes := by
  cases h with
  | classIdentity hk =>
    simp only [setFields, if_true, hk] at hm
    exact mem_attach hm
  | object ho =>
    simp only [setFields, Bool.false_eq_true, if_false, ho] at hm
    exact mem_attach hm

/-- What is made up has the taint that its owner demands, and is fresh apart from that. -/
theorem madeUp? (h : v.Owner isStatic n) {type : JavaType} {made : Note}
    (hmade : v.madeUp? isStatic type = some made) :
    ∃ source fresh, type.note? source = some fresh ∧ made = fresh.absorb n.missTaint := by
  cases h with
  | classIdentity hk =>
    obtain ⟨fresh, hfresh, rfl⟩ := Option.map_eq_some_iff.1 hmade
    exact ⟨_, fresh, hfresh, rfl⟩
  | object ho =>
    simp only [Value.madeUp?, Bool.false_eq_true, if_false, ho, Option.bind_some] at hmade
    obtain ⟨fresh, hfresh, rfl⟩ := Option.map_eq_some_iff.1 hmade
    exact ⟨_, fresh, hfresh, rfl⟩

end Owner

/-- **A read** finds a row of an owner, or adds the row of a fresh value with the taint that the
owner demands. -/
theorem readField_cases {v v' : Value} {isStatic : Bool} {name : String} {type : JavaType}
    {value : Note} (h : v.readField isStatic name type = some (value, v')) :
    ∃ n, v.Owner isStatic n ∧
      ((v' = v ∧ ∃ row ∈ n.rows, row.2 = value) ∨
        ∃ source fresh fields, type.note? source = some fresh ∧ value = fresh.absorb n.missTaint ∧
          v' = v.setFields isStatic fields ∧
          ∀ row ∈ fields.rows, row.2 = value ∨ row ∈ n.rows) := by
  rw [readField_eq] at h
  obtain ⟨fields, hfields, hread⟩ := Option.bind_eq_some_iff.1 h
  obtain ⟨n, howner, hrows⟩ := exists_owner hfields
  refine ⟨n, howner, ?_⟩
  rw [hrows]
  split at hread
  case h_1 found hfound =>
    cases hread
    exact .inl ⟨rfl, FieldTable.mem_of_lookup hfound⟩
  case h_2 =>
    obtain ⟨made, hmade, heq⟩ := Option.map_eq_some_iff.1 hread
    cases heq
    obtain ⟨source, fresh, hfresh, rfl⟩ := howner.madeUp? hmade
    refine .inr ⟨source, fresh, _, hfresh, rfl, rfl, fun row hrow => ?_⟩
    exact (FieldTable.mem_store hrow).imp_left fun heq => by rw [heq]

end Value

end NativeFlow
