import NativeFlow.Value

namespace NativeFlow.Value

/-!
# Replacing a note

The notes of a value are looked up by kind, so a note that takes the place of one of its kind shows
up in the look-up of that kind and in no other.

* `object?_setObject`: what was put in is found.
* `object?_setClass`: a look-up of another kind finds what it found before.
* `mem_of_object?` and its like: what a look-up finds is among the notes.
* `map_tag_attach`: a note that takes the place of another leaves the kinds as they are.
* `notes_of_object?`, `notes_of_class?`: where a look-up finds something, and what is put there.
-/

section

variable {α : Type} {find : Note → Option α} {note : Note}

/-- A look-up that finds notes of one kind only finds a note of that kind that was attached. -/
theorem findSome?_attach_same {x : α} (hnote : find note = some x)
    (hkind : ∀ other : Note, other.tag ≠ note.tag → find other = none) (notes : List Note) :
    (attach note notes).findSome? find = some x := by
  -- The note goes in front of all others of its kind, and `find` passes over other kinds.
  induction notes with
  | nil => simp [attach, hnote]
  | cons other rest ih =>
    by_cases h : other.tag = note.tag
    · simp [attach, h, hnote]
    · simp [attach, h, hkind other h, ih]

/-- A look-up that finds no notes of a kind does not see that one of them is attached. -/
theorem findSome?_attach_other (hkind : ∀ other : Note, other.tag = note.tag → find other = none)
    (notes : List Note) : (attach note notes).findSome? find = notes.findSome? find := by
  induction notes with
  | nil => simp [attach, hkind note rfl]
  | cons other rest ih =>
    by_cases h : other.tag = note.tag
    · simp [attach, h, hkind note rfl, hkind other h]
    · simp only [attach, h, if_false, List.findSome?_cons, ih]

end

/-! ### What the look-ups find -/

variable (v : Value)

/-- `Value.object?` finds what `Value.setObject` has put in. -/
@[simp] theorem object?_setObject (o : ObjectIdentity Note) : (v.setObject o).object? = some o := by
  apply findSome?_attach_same
  · rfl
  · rintro (_ | _ | _ | _ | _ | _) h <;> simp_all [Note.tag]

/-- `Value.setClass` does not touch the object. -/
@[simp] theorem object?_setClass (k : ClassIdentity Note) :
    (v.setClass k).object? = v.object? := by
  refine findSome?_attach_other ?_ v.notes
  rintro (_ | _ | _ | _ | _ | _) h <;> simp_all [Note.tag]

@[simp] theorem class?_setClass (k : ClassIdentity Note) : (v.setClass k).class? = some k := by
  apply findSome?_attach_same
  · rfl
  · rintro (_ | _ | _ | _ | _ | _) h <;> simp_all [Note.tag]

@[simp] theorem class?_setObject (o : ObjectIdentity Note) :
    (v.setObject o).class? = v.class? := by
  refine findSome?_attach_other ?_ v.notes
  rintro (_ | _ | _ | _ | _ | _) h <;> simp_all [Note.tag]

/-- What `Value.object?` finds is one of the notes. -/
theorem mem_of_object? {v : Value} {o : ObjectIdentity Note} (h : v.object? = some o) :
    Note.object o ∈ v.notes := by
  obtain ⟨note, hmem, hnote⟩ := List.exists_of_findSome?_eq_some h
  cases note <;> simp_all

/-- What `Value.class?` finds is one of the notes. -/
theorem mem_of_class? {v : Value} {k : ClassIdentity Note} (h : v.class? = some k) :
    Note.classIdentity k ∈ v.notes := by
  obtain ⟨note, hmem, hnote⟩ := List.exists_of_findSome?_eq_some h
  cases note <;> simp_all

/-- What `Value.primitive?` finds is one of the notes. -/
theorem mem_of_primitive? {v : Value} {p : PrimitiveValue} (h : v.primitive? = some p) :
    Note.primitive p ∈ v.notes := by
  obtain ⟨note, hmem, hnote⟩ := List.exists_of_findSome?_eq_some h
  cases note <;> simp_all

/-- What `Value.literal?` finds is one of the notes. -/
theorem mem_of_literal? {v : Value} {literal : StringLiteral} (h : v.literal? = some literal) :
    Note.string literal ∈ v.notes := by
  obtain ⟨note, hmem, hnote⟩ := List.exists_of_findSome?_eq_some h
  cases note <;> simp_all

/-- The taint of a value is recorded in one of its notes. -/
theorem exists_mem_of_taint? {v : Value} {t : Taint} (h : v.taint? = some t) :
    ∃ n ∈ v.notes, n.taint? = some t := by
  rcases Option.or_eq_some_iff.1 h with hobject | ⟨-, hprimitive⟩
  · obtain ⟨o, ho, rfl⟩ := Option.map_eq_some_iff.1 hobject
    exact ⟨_, mem_of_object? ho, rfl⟩
  · obtain ⟨p, hp, rfl⟩ := Option.map_eq_some_iff.1 hprimitive
    exact ⟨_, mem_of_primitive? hp, rfl⟩

/-- What is kept of a value is known about it. -/
theorem mem_of_payload? {v : Value} {n : Note} (h : v.payload? = some n) : n ∈ v.notes := by
  rcases Option.or_eq_some_iff.1 h with hobject | ⟨-, hrest⟩
  · obtain ⟨o, ho, rfl⟩ := Option.map_eq_some_iff.1 hobject
    exact mem_of_object? ho
  · rcases Option.or_eq_some_iff.1 hrest with hliteral | ⟨-, hprimitive⟩
    · obtain ⟨literal, hfound, rfl⟩ := Option.map_eq_some_iff.1 hliteral
      exact mem_of_literal? hfound
    · obtain ⟨p, hp, rfl⟩ := Option.map_eq_some_iff.1 hprimitive
      exact mem_of_primitive? hp

/-! ### What is attached -/

/-- A note of `attach note notes` is the new one, or was there before. -/
theorem mem_attach {note other : Note} {notes : List Note} (h : other ∈ attach note notes) :
    other = note ∨ other ∈ notes := by
  induction notes with
  | nil => simpa [attach] using h
  | cons head rest ih =>
    by_cases hhead : head.tag = note.tag
    · simp only [attach, hhead, if_true] at h
      grind
    · simp only [attach, hhead, if_false] at h
      grind

/-- A note that takes the place of another one of its kind leaves the kinds as they are, in their
order. -/
theorem map_tag_attach {note : Note} {notes : List Note} (h : note.tag ∈ notes.map Note.tag) :
    (attach note notes).map Note.tag = notes.map Note.tag := by
  induction notes with
  | nil => simp at h
  | cons head rest ih =>
    by_cases hhead : head.tag = note.tag
    · simp [attach, hhead]
    · have hrest : note.tag ∈ rest.map Note.tag := by
        rcases List.mem_cons.1 h with h | h
        · exact absurd h.symm hhead
        · exact h
      simp [attach, hhead, ih hrest]

/-- A note of the kind that a look-up finds takes the place of the one that it finds. -/
theorem attach_split {α : Type} {find : Note → Option α} {make : α → Note}
    (hfound : ∀ n a, find n = some a → n = make a) (hsame : ∀ a b, (make a).tag = (make b).tag)
    (hmissed : ∀ n b, find n = none → n.tag ≠ (make b).tag) {notes : List Note} {a : α}
    (h : notes.findSome? find = some a) :
    ∃ before after, notes = before ++ make a :: after ∧
      ∀ b, attach (make b) notes = before ++ make b :: after := by
  induction notes with
  | nil => cases h
  | cons n rest ih =>
    rw [List.findSome?_cons] at h
    cases hn : find n with
    | some a' =>
      rw [hn] at h
      cases h
      refine ⟨[], rest, by rw [hfound n a hn, List.nil_append], fun b => ?_⟩
      rw [hfound n a hn, attach, if_pos (hsame a b), List.nil_append]
    | none =>
      rw [hn] at h
      obtain ⟨before, after, hrest, hattach⟩ := ih h
      refine ⟨n :: before, after, by rw [hrest, List.cons_append], fun b => ?_⟩
      rw [attach, if_neg (hmissed n b hn), hattach b, List.cons_append]

/-- Where `Value.object?` finds the object, `Value.setObject` puts another one. -/
theorem notes_of_object? {v : Value} {o : ObjectIdentity Note} (h : v.object? = some o) :
    ∃ before after, v.notes = before ++ .object o :: after ∧
      ∀ o', (v.setObject o').notes = before ++ .object o' :: after := by
  refine attach_split ?_ (fun _ _ => rfl) ?_ h
  · rintro (_ | _ | _ | _ | _ | _) o h <;> simp_all
  · rintro (_ | _ | _ | _ | _ | _) o h <;> simp_all [Note.tag]

/-- The same for classes. -/
theorem notes_of_class? {v : Value} {k : ClassIdentity Note} (h : v.class? = some k) :
    ∃ before after, v.notes = before ++ .classIdentity k :: after ∧
      ∀ k', (v.setClass k').notes = before ++ .classIdentity k' :: after := by
  refine attach_split ?_ (fun _ _ => rfl) ?_ h
  · rintro (_ | _ | _ | _ | _ | _) k h <;> simp_all
  · rintro (_ | _ | _ | _ | _ | _) k h <;> simp_all [Note.tag]

/-- What is there already may be put there again. -/
theorem setObject_self {v : Value} {o : ObjectIdentity Note} (h : v.object? = some o) :
    v.setObject o = v := by
  obtain ⟨before, after, hnotes, hset⟩ := notes_of_object? h
  have hsame : (v.setObject o).notes = v.notes := by rw [hset, hnotes]
  calc v.setObject o = { v with notes := (v.setObject o).notes } := rfl
    _ = v := by rw [hsame]

theorem setClass_self {v : Value} {k : ClassIdentity Note} (h : v.class? = some k) :
    v.setClass k = v := by
  obtain ⟨before, after, hnotes, hset⟩ := notes_of_class? h
  have hsame : (v.setClass k).notes = v.notes := by rw [hset, hnotes]
  calc v.setClass k = { v with notes := (v.setClass k).notes } := rfl
    _ = v := by rw [hsame]

end NativeFlow.Value
