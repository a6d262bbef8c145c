import NativeFlow.Note

namespace NativeFlow

/-!
# Positions inside a note

A note is a tree: the fields of an object or a class hold notes, and so do the extras of an Intent.

* `Note.rows`, `Note.extras`: the two places where a note holds others.
* `Note.at?`: the note at a position, which is a list of steps downwards.
* `Note.Everywhere`: a property of a note and of all notes inside it. `Note.everywhere_iff` says it
  level by level, which is how it is proved and used.
* `Note.induction_levels`: what holds of a note as soon as it holds of the notes right inside it
  holds of all notes.
-/

namespace Note

/-- The field values that a note holds. -/
def rows : Note → List (FieldKey × Note)
  | .classIdentity identity => identity.fields.rows
  | .object identity => identity.fields.rows
  | _ => []

/-- The inter-component state that a note holds. -/
def icc? : Note → Option (IccState Note)
  | .object identity => identity.icc
  | _ => none

/-- The extras that a note holds. -/
def extras (n : Note) : List (String × Option Note) :=
  match n.icc? with
  | some icc => icc.extras
  | none => []

/-- One step downwards, to the value in a row or to that of an extra. -/
inductive Step where
  | row (index : Nat)
  | extra (index : Nat)
  deriving DecidableEq, Repr

/-- The note that a step leads to. -/
def child? (n : Note) : Step → Option Note
  | .row index => n.rows[index]?.map Prod.snd
  | .extra index => n.extras[index]?.bind Prod.snd

/-- The note at a position. -/
def at? (n : Note) : List Step → Option Note
  | [] => some n
  | step :: path => (n.child? step).bind fun m => m.at? path

@[simp] theorem at?_nil (n : Note) : n.at? [] = some n := rfl

@[simp] theorem at?_cons (n : Note) (step : Step) (path : List Step) :
    n.at? (step :: path) = (n.child? step).bind fun m => m.at? path := rfl

/-- The notes one step below `n` are the values of its rows and those of its extras. -/
theorem child?_eq_some_iff {n m : Note} :
    (∃ step, n.child? step = some m) ↔
      (∃ row ∈ n.rows, row.2 = m) ∨ ∃ extra ∈ n.extras, extra.2 = some m := by
  constructor
  · rintro ⟨step, h⟩
    cases step with
    | row index =>
      obtain ⟨row, hrow, rfl⟩ := Option.map_eq_some_iff.1 h
      exact .inl ⟨row, List.mem_of_getElem? hrow, rfl⟩
    | extra index =>
      obtain ⟨extra, hextra, hm⟩ := Option.bind_eq_some_iff.1 h
      exact .inr ⟨extra, List.mem_of_getElem? hextra, hm⟩
  · rintro (⟨row, hrow, rfl⟩ | ⟨extra, hextra, hm⟩)
    · obtain ⟨index, hindex⟩ := List.getElem?_of_mem hrow
      exact ⟨.row index, by simp [child?, hindex]⟩
    · obtain ⟨index, hindex⟩ := List.getElem?_of_mem hextra
      exact ⟨.extra index, by simp [child?, hindex, hm]⟩

/-- A property of a note and of every note inside it. -/
def Everywhere (P : Note → Prop) (n : Note) : Prop :=
  ∀ path m, n.at? path = some m → P m

theorem Everywhere.here {P : Note → Prop} {n : Note} (h : n.Everywhere P) : P n := h [] n rfl

/-- `Everywhere` by the first step of a position: the note itself, or a position below one of its
children. -/
theorem everywhere_iff_child {P : Note → Prop} {n : Note} :
    n.Everywhere P ↔ P n ∧ ∀ step m, n.child? step = some m → m.Everywhere P := by
  constructor
  · intro h
    refine ⟨h.here, fun step m hm path k hk => h (step :: path) k ?_⟩
    rw [at?_cons, hm]
    exact hk
  · rintro ⟨hn, hchild⟩ path m hm
    -- A position is the note itself, or a position inside one of its children.
    cases path with
    | nil =>
      obtain rfl : n = m := by simpa using hm
      exact hn
    | cons step path =>
      obtain ⟨k, hk, hpath⟩ := Option.bind_eq_some_iff.1 hm
      exact hchild step k hk path m hpath

/-- **Level by level.** A property holds everywhere in a note when it holds of the note itself and
everywhere in the values of its fields and extras. -/
theorem everywhere_iff {P : Note → Prop} {n : Note} :
    n.Everywhere P ↔
      P n ∧ (∀ row ∈ n.rows, row.2.Everywhere P) ∧
        ∀ extra ∈ n.extras, ∀ m, extra.2 = some m → m.Everywhere P := by
  rw [everywhere_iff_child]
  refine and_congr_right fun _ => ⟨fun h => ⟨fun row hrow => ?_, fun extra hextra m hm => ?_⟩, ?_⟩
  · obtain ⟨step, hstep⟩ := child?_eq_some_iff.2 (.inl ⟨row, hrow, rfl⟩)
    exact h step row.2 hstep
  · obtain ⟨step, hstep⟩ := child?_eq_some_iff.2 (.inr ⟨extra, hextra, hm⟩)
    exact h step m hstep
  · rintro ⟨hrows, hextras⟩ step m hm
    rcases child?_eq_some_iff.1 ⟨step, hm⟩ with ⟨row, hrow, rfl⟩ | ⟨extra, hextra, hextra'⟩
    · exact hrows row hrow
    · exact hextras extra hextra m hextra'

/-- `everywhere_iff` for an object, by its fields and its inter-component state. -/
theorem everywhere_object_iff {P : Note → Prop} {o : ObjectIdentity Note} :
    (Note.object o).Everywhere P ↔
      P (.object o) ∧ (∀ row ∈ o.fields.rows, row.2.Everywhere P) ∧
        ∀ icc, o.icc = some icc → ∀ extra ∈ icc.extras, ∀ m, extra.2 = some m →
          m.Everywhere P := by
  rw [everywhere_iff]
  refine and_congr_right fun _ => and_congr_right fun _ => ?_
  cases h : o.icc <;> simp [extras, icc?, h]

/-- The inter-component state of an object may be replaced, if `P` holds of the new level and
everywhere in the new extras. -/
theorem everywhere_setState {P : Note → Prop} {o : ObjectIdentity Note}
    (h : (Note.object o).Everywhere P) {icc : IccState Note}
    (hlevel : P (.object { o with icc := some icc }))
    (hextras : ∀ extra ∈ icc.extras, ∀ m, extra.2 = some m → m.Everywhere P) :
    (Note.object { o with icc := some icc }).Everywhere P := by
  rw [everywhere_object_iff] at h ⊢
  refine ⟨hlevel, h.2.1, ?_⟩
  rintro _ ⟨⟩
  exact hextras

/-- A weaker property holds everywhere a stronger one does. -/
theorem Everywhere.imp {P Q : Note → Prop} {n : Note} (h : n.Everywhere P)
    (hPQ : ∀ m, P m → Q m) : n.Everywhere Q :=
  fun path m hm => hPQ m (h path m hm)

/-! ### Induction -/

/-- The value of a row is smaller than the note, which is what `induction_levels` descends on. -/
theorem sizeOf_row_lt {n : Note} {row : FieldKey × Note} (h : row ∈ n.rows) :
    sizeOf row.2 < sizeOf n := by
  have hrow : sizeOf row.2 < sizeOf row := by
    obtain ⟨key, value⟩ := row
    simp only [Prod.mk.sizeOf_spec]
    omega
  -- The row is in the list, the list in the table and the table in the identity.
  cases n with
  | classIdentity k =>
    obtain ⟨className, ⟨rows⟩⟩ := k
    have hmem := List.sizeOf_lt_of_mem (show row ∈ rows from h)
    simp only [classIdentity.sizeOf_spec, ClassIdentity.mk.sizeOf_spec, FieldTable.mk.sizeOf_spec]
    omega
  | object o =>
    obtain ⟨source, javaType, ⟨rows⟩, taint, icc⟩ := o
    have hmem := List.sizeOf_lt_of_mem (show row ∈ rows from h)
    simp only [object.sizeOf_spec, ObjectIdentity.mk.sizeOf_spec, FieldTable.mk.sizeOf_spec]
    omega
  | _ => exact absurd h List.not_mem_nil

/-- So is the value of an extra. -/
theorem sizeOf_extra_lt {n m : Note} {extra : String × Option Note} (h : extra ∈ n.extras)
    (hm : extra.2 = some m) : sizeOf m < sizeOf n := by
  have hextra : sizeOf m < sizeOf extra := by
    obtain ⟨key, value⟩ := extra
    obtain rfl : value = some m := hm
    simp only [Prod.mk.sizeOf_spec, Option.some.sizeOf_spec]
    omega
  cases n with
  | object o =>
    obtain ⟨source, javaType, fields, taint, icc⟩ := o
    cases icc with
    | none => cases h
    | some icc =>
      obtain ⟨isIcc, activityName, extras⟩ := icc
      have hmem := List.sizeOf_lt_of_mem (show extra ∈ extras from h)
      simp only [object.sizeOf_spec, ObjectIdentity.mk.sizeOf_spec, Option.some.sizeOf_spec,
        IccState.mk.sizeOf_spec]
      omega
  | _ => exact absurd h List.not_mem_nil

/-- **Induction level by level.** The notes right inside a note are smaller than the note. -/
theorem induction_levels {P : Note → Prop}
    (level : ∀ n : Note, (∀ row ∈ n.rows, P row.2) →
      (∀ extra ∈ n.extras, ∀ m, extra.2 = some m → P m) → P n) (n : Note) : P n :=
  level n (fun row _ => induction_levels level row.2) fun _ _ m _ => induction_levels level m
termination_by sizeOf n
decreasing_by
  · exact sizeOf_row_lt ‹_›
  · exact sizeOf_extra_lt ‹_› ‹_›

end Note

end NativeFlow
