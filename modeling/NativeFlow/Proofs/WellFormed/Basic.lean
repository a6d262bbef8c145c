import NativeFlow.Proofs.Effect
import NativeFlow.Proofs.Fields
import NativeFlow.Proofs.Position

namespace NativeFlow

/-!
# Well-formed notes and values

What the replay relies on whenever it looks something up: one row for a field, one note of a kind,
nothing but values in fields, and state in every Intent.

* `Note.Sound`: what holds of a note, apart from the notes inside it.
* `Note.WellFormed`: the same everywhere in a note. For proofs it is taken apart level by level
  (`Note.wellFormed_object_iff`, `FieldTable.WellFormed`, `IccState.WellFormed`).
* `Value.WellFormed`: well-formed notes of different kinds, with no object beside a class or a
  primitive value.
* `Value.WellFormed.readField`, `Value.WellFormed.writeField`, `Value.WellFormed.tell`: all that can
  be done to a value keeps it well-formed.
-/

/-! ### Notes -/

/-- The kinds of notes that are kept in fields and as extras. -/
def Note.Stored (n : Note) : Prop := n.tag = .object ∨ n.tag = .string ∨ n.tag = .primitive

/-- What holds of a note, apart from the notes inside it. -/
structure Note.Sound (n : Note) : Prop where
  /-- A field has one row. -/
  keys : (n.rows.map Prod.fst).Nodup
  /-- Fields hold values. -/
  rows : ∀ row ∈ n.rows, row.2.Stored
  /-- Every Intent has inter-component state. -/
  intent : ∀ o, n = .object o → o.javaType = intentClass → o.icc.isSome = true
  /-- An Intent that is meant for an activity is meant for a component. -/
  activity : ∀ icc, n.icc? = some icc → icc.activityName.isSome = true → icc.isIcc = true
  /-- Extras are in the order of their keys, each of which is there once. -/
  sorted : Assoc.Sorted n.extras
  /-- Extras hold values. -/
  extras : ∀ extra ∈ n.extras, ∀ m, extra.2 = some m → m.Stored

/-- A note that is sound everywhere. -/
def Note.WellFormed (n : Note) : Prop := n.Everywhere Note.Sound

/-- A table with one row for a key and nothing but well-formed values. -/
structure FieldTable.WellFormed (table : FieldTable Note) : Prop where
  keys : (table.rows.map Prod.fst).Nodup
  values : ∀ row ∈ table.rows, row.2.Stored ∧ row.2.WellFormed

/-- Extras in the order of their keys, with nothing but well-formed values. -/
structure WellFormedExtras (extras : List (String × Option Note)) : Prop where
  sorted : Assoc.Sorted extras
  values : ∀ extra ∈ extras, ∀ m, extra.2 = some m → m.Stored ∧ m.WellFormed

/-- State with well-formed extras that names no activity unless it is meant for a component. -/
structure IccState.WellFormed (icc : IccState Note) : Prop where
  activity : icc.activityName.isSome = true → icc.isIcc = true
  extras : WellFormedExtras icc.extras

/-- An object with well-formed fields and state, which an Intent must have. -/
structure ObjectIdentity.WellFormed (o : ObjectIdentity Note) : Prop where
  fields : o.fields.WellFormed
  intent : o.javaType = intentClass → o.icc.isSome = true
  icc : ∀ icc, o.icc = some icc → icc.WellFormed

namespace Note

/-- **Objects, level by level:** `Note.WellFormed` of an object is `ObjectIdentity.WellFormed`. -/
theorem wellFormed_object_iff {o : ObjectIdentity Note} :
    (Note.object o).WellFormed ↔ o.WellFormed := by
  -- The extras of an object are those of its state, if it has any.
  have hextras : (Note.object o).extras = (o.icc.map (·.extras)).getD [] := by
    cases h : o.icc <;> simp [Note.extras, icc?, h]
  rw [WellFormed, everywhere_iff]
  constructor
  · rintro ⟨hsound, hrows, hinner⟩
    refine ⟨⟨hsound.keys, fun row hrow => ⟨hsound.rows row hrow, hrows row hrow⟩⟩,
      hsound.intent o rfl, fun icc hicc => ?_⟩
    rw [hicc] at hextras
    have hsorted := hsound.sorted
    have hstored := hsound.extras
    rw [hextras] at hsorted hstored hinner
    refine ⟨hsound.activity icc hicc, hsorted, fun extra hextra m hm => ?_⟩
    exact ⟨hstored extra hextra m hm, hinner extra hextra m hm⟩
  · intro h
    have hall : WellFormedExtras (Note.object o).extras := by
      rw [hextras]
      cases hicc : o.icc with
      | none => exact ⟨.nil, fun extra hmem => absurd hmem List.not_mem_nil⟩
      | some icc => exact (h.icc icc hicc).extras
    refine ⟨⟨h.fields.keys, fun row hrow => (h.fields.values row hrow).1, ?_, ?_, hall.sorted,
      fun extra hextra m hm => (hall.values extra hextra m hm).1⟩,
      fun row hrow => (h.fields.values row hrow).2,
      fun extra hextra m hm => (hall.values extra hextra m hm).2⟩
    · intro o' heq
      cases heq
      exact h.intent
    · intro icc hicc
      exact (h.icc icc hicc).activity

/-- The same for classes, which hold nothing but fields. -/
theorem wellFormed_classIdentity_iff {k : ClassIdentity Note} :
    (Note.classIdentity k).WellFormed ↔ k.fields.WellFormed := by
  rw [WellFormed, everywhere_iff]
  constructor
  · rintro ⟨hsound, hrows, -⟩
    exact ⟨hsound.keys, fun row hrow => ⟨hsound.rows row hrow, hrows row hrow⟩⟩
  · intro h
    refine ⟨⟨h.keys, fun row hrow => (h.values row hrow).1, ?_, ?_, .nil, ?_⟩,
      fun row hrow => (h.values row hrow).2, ?_⟩
    · intro o heq
      cases heq
    · intro icc hicc
      cases hicc
    · intro extra hmem
      exact absurd hmem List.not_mem_nil
    · intro extra hmem
      exact absurd hmem List.not_mem_nil

/-- Notes of the other kinds hold no others, so there is nothing to be sound. -/
theorem wellFormed_of_leaf {n : Note} (hobject : n.tag ≠ .object)
    (hclass : n.tag ≠ .classIdentity) : n.WellFormed := by
  have hrows : n.rows = [] := by cases n <;> simp_all [tag, rows]
  have hicc : n.icc? = none := by cases n <;> simp_all [tag, icc?]
  have hextras : n.extras = [] := by simp [extras, hicc]
  rw [WellFormed, everywhere_iff, hrows, hextras]
  refine ⟨⟨by simp [hrows], by simp [hrows], ?_, by simp [hicc], ?_, by simp [hextras]⟩, by simp,
    by simp⟩
  · rintro o rfl
    exact absurd rfl hobject
  · rw [hextras]
    exact .nil

theorem wellFormed_string (literal : StringLiteral) : (Note.string literal).WellFormed :=
  wellFormed_of_leaf nofun nofun

theorem wellFormed_method (identity : MethodIdentity) : (Note.method identity).WellFormed :=
  wellFormed_of_leaf nofun nofun

theorem wellFormed_field (identity : FieldIdentity) : (Note.field identity).WellFormed :=
  wellFormed_of_leaf nofun nofun

theorem wellFormed_primitive (value : PrimitiveValue) : (Note.primitive value).WellFormed :=
  wellFormed_of_leaf nofun nofun

/-! ### Fresh notes -/

theorem tag_absorb (taint : Taint) (n : Note) : (n.absorb taint).tag = n.tag := by
  cases n <;> rfl

/-- `Note.absorb` changes neither the kind of a note nor what it holds. -/
theorem WellFormed.absorb {n : Note} (h : n.WellFormed) (taint : Taint) :
    (n.absorb taint).WellFormed := by
  cases n with
  | object o =>
    have ho := wellFormed_object_iff.1 h
    exact wellFormed_object_iff.2 ⟨ho.fields, ho.intent, ho.icc⟩
  | primitive p => exact wellFormed_primitive _
  | _ => exact h

end Note

theorem FieldTable.wellFormed_empty : (FieldTable.mk []).WellFormed :=
  ⟨List.nodup_nil, fun _ hmem => absurd hmem List.not_mem_nil⟩

theorem IccState.wellFormed_empty : IccState.WellFormed {} :=
  ⟨fun h => absurd h (by decide), .nil, fun _ hmem => absurd hmem List.not_mem_nil⟩

/-- A fresh object is well-formed: `ObjectIdentity.ofType` gives an Intent its empty state. -/
theorem ObjectIdentity.wellFormed_ofType (source : Provenance) (javaType : String) :
    (ObjectIdentity.ofType source javaType).WellFormed := by
  refine ⟨FieldTable.wellFormed_empty, fun h => ?_, fun icc hicc => ?_⟩
  · simp [ofType, show javaType = intentClass from h]
  · simp only [ofType] at hicc
    split at hicc
    · cases hicc
      exact IccState.wellFormed_empty
    · cases hicc

/-- A fresh note of a type is an object or a primitive value, and well-formed. -/
theorem JavaType.wellFormed_note? {type : JavaType} {source : Provenance} {n : Note}
    (h : type.note? source = some n) : n.Stored ∧ n.WellFormed := by
  unfold note? at h
  split at h
  · cases h
  · cases h
    exact ⟨.inr (.inr rfl), Note.wellFormed_primitive _⟩
  · cases h
    exact ⟨.inl rfl, Note.wellFormed_object_iff.2 (ObjectIdentity.wellFormed_ofType _ _)⟩
  · cases h
    exact ⟨.inl rfl, Note.wellFormed_object_iff.2 (ObjectIdentity.wellFormed_ofType _ _)⟩
  · cases h
    exact ⟨.inl rfl, Note.wellFormed_object_iff.2 (ObjectIdentity.wellFormed_ofType _ _)⟩

/-! ### Field tables -/

namespace FieldTable

namespace WellFormed

variable {table : FieldTable Note}

/-- What is found in a well-formed table is a well-formed value. -/
theorem get? (h : table.WellFormed) {key : FieldKey} {value : Note}
    (hvalue : table.get? key = some value) : value.Stored ∧ value.WellFormed := by
  obtain ⟨row, hmem, rfl⟩ := mem_of_lookup hvalue
  exact h.values row hmem

/-- `FieldTable.set` keeps one row for each key: the row of the key is replaced, or added at the
end. -/
theorem set (h : table.WellFormed) (key : FieldKey) {value : Note} (hstored : value.Stored)
    (hvalue : value.WellFormed) : (table.set key value).WellFormed := by
  constructor
  · show ((store key value table.rows).map Prod.fst).Nodup
    rw [map_fst_store]
    split
    case isTrue => exact h.keys
    case isFalse hnew =>
      -- A new key goes to the end, and is none of those before it.
      rw [List.nodup_append]
      refine ⟨h.keys, by simp, ?_⟩
      intro k hk k' hk'
      rw [List.mem_singleton.1 hk']
      exact fun heq => hnew (heq ▸ hk)
  · intro row hrow
    rcases mem_store hrow with rfl | hmem
    · exact ⟨hstored, hvalue⟩
    · exact h.values row hmem

/-- `FieldTable.read` gives a well-formed value, found or made up, and leaves a well-formed table.
-/
theorem read (h : table.WellFormed) {name : String} {type : JavaType} {source : Provenance}
    {taint : Taint} {value : Note} {table' : FieldTable Note}
    (hread : table.read name type source taint = some (value, table')) :
    (value.Stored ∧ value.WellFormed) ∧ table'.WellFormed := by
  unfold FieldTable.read at hread
  split at hread
  case h_1 found hfound =>
    cases hread
    exact ⟨h.get? hfound, h⟩
  case h_2 =>
    obtain ⟨fresh, hfresh, heq⟩ := Option.map_eq_some_iff.1 hread
    cases heq
    obtain ⟨hstored, hwf⟩ := JavaType.wellFormed_note? hfresh
    have hstored' : (fresh.absorb taint).Stored := by
      unfold Note.Stored
      rw [Note.tag_absorb]
      exact hstored
    exact ⟨⟨hstored', hwf.absorb taint⟩, h.set _ hstored' (hwf.absorb taint)⟩

end WellFormed

end FieldTable

/-! ### Values -/

/-- Well-formed notes of different kinds, with no object beside a class or a primitive value. -/
structure WellFormedNotes (notes : List Note) : Prop where
  kinds : (notes.map Note.tag).Nodup
  alone : .object ∈ notes.map Note.tag →
    .primitive ∉ notes.map Note.tag ∧ .classIdentity ∉ notes.map Note.tag
  each : ∀ n ∈ notes, n.WellFormed

/-- A value with well-formed notes. -/
def Value.WellFormed (v : Value) : Prop := WellFormedNotes v.notes

namespace WellFormedNotes

theorem nil : WellFormedNotes [] :=
  ⟨List.nodup_nil, fun h => absurd h List.not_mem_nil, fun _ h => absurd h List.not_mem_nil⟩

/-- One note alone. -/
theorem single {n : Note} (h : n.WellFormed) : WellFormedNotes [n] := by
  refine ⟨by simp, ?_, ?_⟩
  · intro hobject
    have htag : .object = n.tag := by simpa using hobject
    simp [← htag]
  · intro m hm
    rw [List.mem_singleton.1 hm]
    exact h

/-- An object together with the text or the member that it stands for. -/
theorem pair {o : ObjectIdentity Note} {n : Note} (ho : o.WellFormed) (hn : n.WellFormed)
    (htag : n.tag = .string ∨ n.tag = .method ∨ n.tag = .field) :
    WellFormedNotes [.object o, n] := by
  have hobject : (Note.object o).tag = .object := rfl
  refine ⟨?_, ?_, ?_⟩
  · rcases htag with htag | htag | htag <;> simp [hobject, htag]
  · intro _
    rcases htag with htag | htag | htag <;> simp [hobject, htag]
  · intro m hm
    rcases List.mem_cons.1 hm with rfl | hm
    · exact Note.wellFormed_object_iff.2 ho
    · rw [List.mem_singleton.1 hm]
      exact hn

/-- `Value.attach` of a note in the place of another one of its kind. -/
theorem attach {notes : List Note} (h : WellFormedNotes notes) {note : Note}
    (hkind : note.tag ∈ notes.map Note.tag) (hnote : note.WellFormed) :
    WellFormedNotes (Value.attach note notes) := by
  have htags := Value.map_tag_attach hkind
  refine ⟨htags ▸ h.kinds, htags ▸ h.alone, ?_⟩
  intro n hn
  rcases Value.mem_attach hn with rfl | hmem
  · exact hnote
  · exact h.each n hmem

end WellFormedNotes

namespace Value.WellFormed

variable {v : Value}

/-! ### Look-ups -/

/-- The object of a well-formed value is well-formed. -/
theorem object? (h : v.WellFormed) {o : ObjectIdentity Note} (ho : v.object? = some o) :
    o.WellFormed :=
  Note.wellFormed_object_iff.1 (h.each _ (mem_of_object? ho))

/-- So are the fields of its class. -/
theorem class? (h : v.WellFormed) {k : ClassIdentity Note} (hk : v.class? = some k) :
    k.fields.WellFormed :=
  Note.wellFormed_classIdentity_iff.1 (h.each _ (mem_of_class? hk))

theorem icc? (h : v.WellFormed) {icc : IccState Note} (hicc : v.icc? = some icc) :
    icc.WellFormed := by
  obtain ⟨o, ho, hicc⟩ := Option.bind_eq_some_iff.1 hicc
  exact (h.object? ho).icc icc hicc

/-- What is kept of a value, `Value.payload?`, is a well-formed value of a kind that is stored. -/
theorem payload? (h : v.WellFormed) {n : Note} (hn : v.payload? = some n) :
    n.Stored ∧ n.WellFormed := by
  rcases Option.or_eq_some_iff.1 hn with hobject | ⟨-, hrest⟩
  · obtain ⟨o, ho, rfl⟩ := Option.map_eq_some_iff.1 hobject
    exact ⟨.inl rfl, h.each _ (mem_of_object? ho)⟩
  · rcases Option.or_eq_some_iff.1 hrest with hliteral | ⟨-, hprimitive⟩
    · obtain ⟨literal, -, rfl⟩ := Option.map_eq_some_iff.1 hliteral
      exact ⟨.inr (.inl rfl), Note.wellFormed_string literal⟩
    · obtain ⟨value, -, rfl⟩ := Option.map_eq_some_iff.1 hprimitive
      exact ⟨.inr (.inr rfl), Note.wellFormed_primitive value⟩

/-- **Nothing hides the taint of a primitive value**, for no object stands beside it. -/
theorem taint?_of_primitive? (h : v.WellFormed) {p : PrimitiveValue}
    (hp : v.primitive? = some p) : v.taint? = some p.taint := by
  have hprimitive : Note.Tag.primitive ∈ v.notes.map Note.tag :=
    List.mem_map.2 ⟨_, mem_of_primitive? hp, rfl⟩
  -- An object beside the primitive value would be asked first.
  have hobject : v.object? = none := by
    cases ho : v.object? with
    | none => rfl
    | some o =>
      have htag : Note.Tag.object ∈ v.notes.map Note.tag :=
        List.mem_map.2 ⟨_, mem_of_object? ho, rfl⟩
      exact absurd hprimitive (h.alone htag).1
  rw [taint?, hobject, hp]
  rfl

/-! ### Changes -/

/-- Another object in the place of the one that was there. -/
theorem setObject (h : v.WellFormed) {o o' : ObjectIdentity Note} (ho : v.object? = some o)
    (ho' : o'.WellFormed) : (v.setObject o').WellFormed :=
  h.attach (List.mem_map.2 ⟨_, mem_of_object? ho, rfl⟩) (Note.wellFormed_object_iff.2 ho')

theorem setClass (h : v.WellFormed) {k k' : ClassIdentity Note} (hk : v.class? = some k)
    (hk' : k'.fields.WellFormed) : (v.setClass k').WellFormed :=
  h.attach (List.mem_map.2 ⟨_, mem_of_class? hk, rfl⟩) (Note.wellFormed_classIdentity_iff.2 hk')

/-- `Value.readField` gives a well-formed value and leaves a well-formed one behind. -/
theorem readField (h : v.WellFormed) {isStatic : Bool} {name : String} {type : JavaType}
    {value : Note} {v' : Value} (hread : v.readField isStatic name type = some (value, v')) :
    (value.Stored ∧ value.WellFormed) ∧ v'.WellFormed := by
  unfold Value.readField at hread
  -- A static field is one of the class, any other one of the object.
  split at hread
  case isTrue =>
    obtain ⟨⟨note, owner⟩, hfield, heq⟩ := Option.map_eq_some_iff.1 hread
    cases heq
    obtain ⟨k, hk, hfield⟩ := Option.bind_eq_some_iff.1 hfield
    obtain ⟨⟨note', fields⟩, hrow, heq⟩ := Option.map_eq_some_iff.1 hfield
    cases heq
    obtain ⟨hvalue, hfields⟩ := (h.class? hk).read hrow
    exact ⟨hvalue, h.setClass hk hfields⟩
  case isFalse =>
    obtain ⟨⟨note, owner⟩, hfield, heq⟩ := Option.map_eq_some_iff.1 hread
    cases heq
    obtain ⟨o, ho, hfield⟩ := Option.bind_eq_some_iff.1 hfield
    obtain ⟨⟨note', fields⟩, hrow, heq⟩ := Option.map_eq_some_iff.1 hfield
    cases heq
    have hwf := h.object? ho
    obtain ⟨hvalue, hfields⟩ := hwf.fields.read hrow
    exact ⟨hvalue, h.setObject ho ⟨hfields, hwf.intent, hwf.icc⟩⟩

/-- `Value.writeField` of a well-formed value leaves a well-formed one behind. -/
theorem writeField (h : v.WellFormed) {isStatic : Bool} {name : String} {type : JavaType}
    {value : Note} (hvalue : value.Stored ∧ value.WellFormed) {v' : Value}
    (hwrite : v.writeField isStatic name type value = some v') : v'.WellFormed := by
  unfold Value.writeField at hwrite
  split at hwrite
  case isTrue =>
    obtain ⟨k, hk, rfl⟩ := Option.map_eq_some_iff.1 hwrite
    exact h.setClass hk ((h.class? hk).set _ hvalue.1 hvalue.2)
  case isFalse =>
    obtain ⟨o, ho, rfl⟩ := Option.map_eq_some_iff.1 hwrite
    have hwf := h.object? ho
    exact h.setObject ho ⟨hwf.fields.set _ hvalue.1 hvalue.2, hwf.intent, hwf.icc⟩

end Value.WellFormed

/-! ### Telling an Intent something -/

/-- What an Intent is told is a value, where it is one. -/
def IntentUpdate.WellFormed : IntentUpdate → Prop
  | .activity _ => True
  | .extra _ value => ∀ n, value = some n → n.Stored ∧ n.WellFormed

/-- `IccState.tell` keeps state well-formed: naming an activity marks the Intent as meant for a
component. -/
theorem IccState.WellFormed.tell {icc : IccState Note} (h : icc.WellFormed)
    {update : IntentUpdate} (hupdate : update.WellFormed) : (icc.tell update).WellFormed := by
  cases update with
  | activity name => exact ⟨fun _ => rfl, h.extras⟩
  | extra key value =>
    -- An extra does not say whether the Intent is meant for a component.
    refine ⟨h.activity, h.extras.sorted.insert key value, ?_⟩
    intro extra hmem m hm
    rcases mem_extras_tell hmem with hold | hnew
    · exact h.extras.values extra hold m hm
    · cases hnew
      exact hupdate m hm

/-- The state of a well-formed object may be replaced by any well-formed one. -/
theorem ObjectIdentity.WellFormed.setState {o : ObjectIdentity Note} (h : o.WellFormed)
    {icc : IccState Note} (hicc : icc.WellFormed) :
    ({ o with icc := some icc } : ObjectIdentity Note).WellFormed := by
  refine ⟨h.fields, fun _ => rfl, ?_⟩
  intro icc' heq
  cases heq
  exact hicc

/-- The state that `ObjectIdentity.tell` starts with, be it empty. -/
theorem ObjectIdentity.WellFormed.state {o : ObjectIdentity Note} (h : o.WellFormed) :
    (o.icc.getD {}).WellFormed := by
  cases hicc : o.icc with
  | none => exact IccState.wellFormed_empty
  | some icc => exact h.icc icc hicc

theorem ObjectIdentity.WellFormed.tell {o : ObjectIdentity Note} (h : o.WellFormed)
    {update : IntentUpdate} (hupdate : update.WellFormed) : (o.tell update).WellFormed :=
  h.setState (h.state.tell hupdate)

/-- **Telling an Intent something** keeps the value well-formed, whether it refers to an object or
not. -/
theorem Value.WellFormed.tell {v : Value} (h : v.WellFormed) {update : IntentUpdate}
    (hupdate : update.WellFormed) : (v.tell update).WellFormed := by
  unfold Value.tell
  split
  case h_1 o ho => exact h.setObject ho ((h.object? ho).tell hupdate)
  case h_2 => exact h

end NativeFlow
