import Mathlib.Data.List.Infix
import Mathlib.Data.List.TakeWhile
import NativeFlow.Descriptor

namespace NativeFlow

/-!
# The spelling of descriptors

A reader of descriptors takes the spelling of one descriptor off the front of a text and leaves the
rest as it is. Every spelling is read as what it spells, and nothing else is read.

* `BaseType.Readable`, `TypeDescriptor.Readable`, `MethodDescriptor.Readable`: the descriptors that
  can be read. A class name ends at the first semicolon, and the number of dimensions is limited.
* `TypeDescriptor.read_eq_some_iff`, `TypeDescriptor.read_eq_none_iff`: one type, and the closing
  parenthesis.
* `MethodDescriptor.readParameters_eq_ok_iff`: all parameters of a method.
* `MethodDescriptor.read_eq_ok_iff`: a method descriptor at the front of a text.
* `TypeDescriptor.unique_of_append_eq`, `MethodDescriptor.unique_of_append_eq`: no text starts with
  two of them.
-/

/-! ### Types without dimensions -/

/-- A primitive type that is found by a letter has that letter. -/
theorem Primitive.letter_of_ofLetter? {c : Char} {p : Primitive} (h : ofLetter? c = some p) :
    p.letter = c := by
  simpa using List.find?_some h

namespace BaseType

/-- A class name that can be read ends in front of the first semicolon. -/
def Readable : BaseType → Prop
  | .reference className => ';' ∉ className
  | .void | .primitive _ => True

instance : (b : BaseType) → Decidable b.Readable
  | .reference className => inferInstanceAs (Decidable (';' ∉ className))
  | .void | .primitive _ => inferInstanceAs (Decidable True)

/-- The spelling of a type starts with a letter. -/
theorem render_eq_cons (b : BaseType) : ∃ c rest, b.render = c :: rest ∧ c ≠ '[' := by
  cases b with
  | void => exact ⟨'V', [], rfl, by decide⟩
  | primitive type => exact ⟨type.letter, [], rfl, by cases type <;> decide⟩
  | reference className => exact ⟨'L', className ++ [';'], rfl, by decide⟩

end BaseType

namespace TypeDescriptor

variable {text rest : List Char}

/-- A class name is read up to the semicolon. -/
theorem readBase_reference {className : List Char} (h : ';' ∉ className) :
    readBase ('L' :: className ++ ';' :: rest) = .ok (some (.reference className), rest) := by
  have hname : ∀ c ∈ className, decide (c ≠ ';') = true := by
    intro c hmem
    exact decide_eq_true fun heq => h (heq ▸ hmem)
  have hdrop : (className ++ ';' :: rest).dropWhile (· ≠ ';') = ';' :: rest := by
    rw [List.dropWhile_append_of_pos hname, List.dropWhile_cons_of_neg (by simp)]
  have htake : (className ++ ';' :: rest).takeWhile (· ≠ ';') = className := by
    rw [List.takeWhile_append_of_pos hname, List.takeWhile_cons_of_neg (by simp), List.append_nil]
  simp only [List.cons_append, readBase, hdrop, htake]

/-- A base type that can be read is read back, and the rest of the text is left. -/
theorem readBase_render {b : BaseType} (h : b.Readable) (rest : List Char) :
    readBase (b.render ++ rest) = .ok (some b, rest) := by
  cases b with
  | void => rfl
  | primitive type => cases type <;> rfl
  | reference className =>
    rw [BaseType.render, List.append_assoc]
    exact readBase_reference h

/-- What is left of a text from the first semicolon on is behind the class name. -/
theorem append_of_dropWhile_eq_cons {c : Char} {after : List Char}
    (h : text.dropWhile (· ≠ ';') = c :: after) :
    text = text.takeWhile (· ≠ ';') ++ ';' :: after := by
  have hc : c = ';' := by
    have hhead := List.head?_dropWhile_not (· ≠ ';') text
    rw [h] at hhead
    simpa using hhead
  subst hc
  rw [← h, List.takeWhile_append_dropWhile]

/-- Whatever is read without dimensions is the spelling of it. -/
theorem spelled_of_readBase {b? : Option BaseType} (h : readBase text = .ok (b?, rest)) :
    (b? = none ∧ text = ')' :: rest) ∨
    ∃ b : BaseType, b? = some b ∧ b.Readable ∧ text = b.render ++ rest := by
  unfold readBase at h
  split at h
  case h_1 => cases h
  case h_2 => cases h; exact .inl ⟨rfl, rfl⟩
  case h_3 => cases h; exact .inr ⟨.void, rfl, trivial, rfl⟩
  -- A class name: it ends in front of the first semicolon, which has to be there.
  case h_4 tail =>
    split at h
    case h_1 => cases h
    case h_2 c after hdrop =>
      cases h
      refine .inr ⟨_, rfl, ?_, ?_⟩
      · intro hmem
        simpa using List.mem_takeWhile_imp hmem
      · rw [BaseType.render, List.append_assoc]
        exact congrArg ('L' :: ·) (append_of_dropWhile_eq_cons hdrop)
  -- Any other letter is that of a primitive type, or it is no type.
  case h_5 c tail _ _ _ =>
    split at h
    case h_1 type hletter =>
      cases h
      refine .inr ⟨.primitive type, rfl, trivial, ?_⟩
      rw [BaseType.render, Primitive.letter_of_ofLetter? hletter]
      rfl
    case h_2 => cases h

/-! ### Types -/

/-- A type that can be read has a limited number of dimensions. `BaseType.void` counts as a type
here like any other, so that arrays of it can be read too: only the type of a field may not be void
(`JavaType.ofText_eq_ok_iff`). -/
def Readable (t : TypeDescriptor) : Prop := t.dimensions ≤ maxDimensions ∧ t.base.Readable

instance (t : TypeDescriptor) : Decidable t.Readable :=
  inferInstanceAs (Decidable (_ ∧ _))

variable {t : TypeDescriptor}

/-- No type has an empty spelling. -/
theorem render_ne_nil (t : TypeDescriptor) : t.render ≠ [] := by
  obtain ⟨c, tail, hbase, -⟩ := t.base.render_eq_cons
  simp [render, hbase]

/-- The dimensions are what stands in front of the first other character. -/
theorem takeWhile_render (t : TypeDescriptor) (rest : List Char) :
    (t.render ++ rest).takeWhile (· = '[') = List.replicate t.dimensions '[' := by
  obtain ⟨c, tail, hbase, hc⟩ := t.base.render_eq_cons
  have hdimensions : ∀ c ∈ List.replicate t.dimensions '[', decide (c = '[') = true := by
    intro c hmem
    exact decide_eq_true (List.eq_of_mem_replicate hmem)
  rw [render, hbase, List.append_assoc, List.takeWhile_append_of_pos hdimensions,
    List.cons_append, List.takeWhile_cons_of_neg (by simpa using hc), List.append_nil]

/-- The dimensions in front of a text and what stands behind them. -/
theorem replicate_append_drop (text : List Char) :
    List.replicate (text.takeWhile (· = '[')).length '[' ++
      text.drop (text.takeWhile (· = '[')).length = text := by
  have hdimensions : text.takeWhile (· = '[') =
      List.replicate (text.takeWhile (· = '[')).length '[' := by
    refine List.eq_replicate_of_mem fun c hmem => ?_
    simpa using List.mem_takeWhile_imp hmem
  rw [← hdimensions]
  exact (List.prefix_append_drop (List.takeWhile_prefix _)).symm

/-- Whatever is read is the spelling of it. -/
theorem spelled_of_read {t? : Option TypeDescriptor} (h : read text = .ok (t?, rest)) :
    (t? = none ∧ text = ')' :: rest) ∨
    ∃ t : TypeDescriptor, t? = some t ∧ t.Readable ∧ text = t.render ++ rest := by
  unfold read at h
  have htext := replicate_append_drop text
  generalize (text.takeWhile (· = '[')).length = dimensions at h htext
  dsimp only at h
  split at h
  case isTrue => cases h
  case isFalse hlimit =>
    split at h
    case h_1 => cases h
    case h_2 base after hbase =>
      cases h
      rcases spelled_of_readBase hbase with ⟨hnone, -⟩ | ⟨b, hb, hreadable, hrest⟩
      · cases hnone
      · cases hb
        refine .inr ⟨_, rfl, ⟨Nat.not_lt.1 hlimit, hreadable⟩, ?_⟩
        rw [← htext, hrest, render, List.append_assoc]
    -- A closing parenthesis is fine if there is no dimension in front of it.
    case h_3 after hbase =>
      split at h
      case isTrue hzero =>
        cases h
        subst hzero
        rcases spelled_of_readBase hbase with ⟨-, hclosed⟩ | ⟨b, hb, -, -⟩
        · exact .inl ⟨rfl, hclosed⟩
        · cases hb
      case isFalse => cases h

/-- A type that can be read is read back, and the rest of the text is left. -/
theorem read_render (h : t.Readable) (rest : List Char) :
    read (t.render ++ rest) = .ok (some t, rest) := by
  obtain ⟨hlimit, hreadable⟩ := h
  have hdrop : (t.render ++ rest).drop t.dimensions = t.base.render ++ rest := by
    rw [render, List.append_assoc]
    exact List.drop_left' List.length_replicate
  simp only [read, takeWhile_render, List.length_replicate, if_neg (Nat.not_lt.2 hlimit), hdrop,
    readBase_render hreadable]

/-- **One type is read** exactly if its spelling is at the front of the text. -/
theorem read_eq_some_iff :
    read text = .ok (some t, rest) ↔ t.Readable ∧ text = t.render ++ rest := by
  constructor
  · intro h
    rcases spelled_of_read h with ⟨hnone, -⟩ | ⟨t', ht, hspelled⟩
    · cases hnone
    · cases ht
      exact hspelled
  · rintro ⟨hreadable, rfl⟩
    exact read_render hreadable rest

/-- **No type is read** exactly if a closing parenthesis is at the front of the text. -/
theorem read_eq_none_iff : read text = .ok (none, rest) ↔ text = ')' :: rest := by
  constructor
  · intro h
    rcases spelled_of_read h with ⟨-, hclosed⟩ | ⟨t', ht, -⟩
    · exact hclosed
    · cases ht
  · rintro rfl
    rfl

/-- No text starts with two types. -/
theorem unique_of_append_eq {t' : TypeDescriptor} {rest' : List Char} (h : t.Readable)
    (h' : t'.Readable) (heq : t.render ++ rest = t'.render ++ rest') : t = t' := by
  have hread := read_render h rest
  rw [heq, read_render h' rest'] at hread
  cases hread
  rfl

end TypeDescriptor

/-! ### Methods -/

namespace MethodDescriptor

/-- A method descriptor that can be read has types that can be read. A parameter may be void. -/
def Readable (m : MethodDescriptor) : Prop :=
  (∀ p ∈ m.parameters, p.Readable) ∧ m.returns.Readable

instance (m : MethodDescriptor) : Decidable m.Readable :=
  inferInstanceAs (Decidable (_ ∧ _))

variable {text rest : List Char} {parameters done : List TypeDescriptor}

/-- The parameters that are read behind others are spelled one after the other. -/
theorem spelled_of_go {clock : List Char}
    (h : readParameters.go clock done text = .ok (parameters, rest)) :
    ∃ more, parameters = done.reverse ++ more ∧ (∀ p ∈ more, p.Readable) ∧
      text = more.flatMap TypeDescriptor.render ++ ')' :: rest := by
  -- Induction on the clock, which takes one tick for each parameter.
  induction clock generalizing done text with
  | nil => cases h
  | cons c clock ih =>
    unfold readParameters.go at h
    split at h
    case h_1 => cases h
    case h_2 hread =>
      cases h
      exact ⟨[], by simp, by simp, TypeDescriptor.read_eq_none_iff.1 hread⟩
    case h_3 type after hread =>
      obtain ⟨hreadable, rfl⟩ := TypeDescriptor.read_eq_some_iff.1 hread
      obtain ⟨more, rfl, hmore, rfl⟩ := ih h
      refine ⟨type :: more, by simp, ?_, by simp⟩
      simpa using ⟨hreadable, hmore⟩

/-- Parameters that can be read are read one after the other, if there is time for all of them and
for the closing parenthesis. -/
theorem go_render (hreadable : ∀ p ∈ parameters, p.Readable) {clock : List Char}
    (hclock : parameters.length < clock.length) (rest : List Char) :
    readParameters.go clock done (parameters.flatMap TypeDescriptor.render ++ ')' :: rest) =
      .ok (done.reverse ++ parameters, rest) := by
  -- Induction on the parameters. The clock has a tick for each of them and one for the end.
  induction parameters generalizing clock done with
  | nil =>
    obtain ⟨c, clock, rfl⟩ := List.exists_cons_of_length_pos hclock
    simp [readParameters.go, TypeDescriptor.read_eq_none_iff.2]
  | cons type more ih =>
    obtain ⟨c, clock, rfl⟩ := List.exists_cons_of_length_pos (Nat.zero_lt_of_lt hclock)
    have hmore : readParameters.go clock (type :: done)
        (more.flatMap TypeDescriptor.render ++ ')' :: rest) =
        .ok ((type :: done).reverse ++ more, rest) :=
      ih (fun p hmem => hreadable p (List.mem_cons_of_mem _ hmem)) (by simpa using hclock)
    rw [List.flatMap_cons, List.append_assoc, readParameters.go,
      TypeDescriptor.read_render (hreadable type List.mem_cons_self)]
    simpa using hmore

/-- There are at most as many parameters as characters. -/
theorem length_le_length_flatMap (parameters : List TypeDescriptor) :
    parameters.length ≤ (parameters.flatMap TypeDescriptor.render).length := by
  induction parameters with
  | nil => exact Nat.le_refl 0
  | cons type more ih =>
    have hpos := List.length_pos_iff.2 type.render_ne_nil
    simp only [List.flatMap_cons, List.length_append, List.length_cons]
    omega

/-- **All parameters are read** exactly if their spellings and a closing parenthesis are at the
front of the text. -/
theorem readParameters_eq_ok_iff :
    readParameters text = .ok (parameters, rest) ↔
      (∀ p ∈ parameters, p.Readable) ∧
        text = parameters.flatMap TypeDescriptor.render ++ ')' :: rest := by
  constructor
  · intro h
    obtain ⟨more, rfl, hreadable, htext⟩ := spelled_of_go h
    exact ⟨hreadable, htext⟩
  · rintro ⟨hreadable, rfl⟩
    -- The text itself is the clock, and it has more characters than parameters.
    have hlength := length_le_length_flatMap parameters
    exact go_render hreadable (by simp only [List.length_append, List.length_cons]; omega) rest

/-- **A method descriptor is read** exactly if its spelling is at the front of the text. -/
theorem read_eq_ok_iff {m : MethodDescriptor} :
    read text = .ok m ↔ m.Readable ∧ ∃ rest, text = m.render ++ rest := by
  constructor
  · intro h
    unfold read at h
    split at h
    case h_2 => cases h
    case h_1 text =>
      split at h
      case h_1 => cases h
      case h_2 parameters behind hparameters =>
        obtain ⟨hreadable, rfl⟩ := readParameters_eq_ok_iff.1 hparameters
        split at h
        case h_1 => cases h
        case h_2 => cases h
        case h_3 returns after hreturns =>
          obtain ⟨hreturn, rfl⟩ := TypeDescriptor.read_eq_some_iff.1 hreturns
          cases h
          exact ⟨⟨hreadable, hreturn⟩, after, by simp [render]⟩
  · rintro ⟨⟨hreadable, hreturn⟩, rest, rfl⟩
    have hparameters : readParameters (m.parameters.flatMap TypeDescriptor.render ++
        ')' :: (m.returns.render ++ rest)) = .ok (m.parameters, m.returns.render ++ rest) :=
      readParameters_eq_ok_iff.2 ⟨hreadable, rfl⟩
    simp only [render, List.cons_append, List.append_assoc, read, hparameters,
      TypeDescriptor.read_render hreturn]

/-- No text starts with two method descriptors. -/
theorem unique_of_append_eq {m m' : MethodDescriptor} {rest rest' : List Char} (h : m.Readable)
    (h' : m'.Readable) (heq : m.render ++ rest = m'.render ++ rest') : m = m' := by
  have hread := read_eq_ok_iff.2 ⟨h, rest, rfl⟩
  have hread' := read_eq_ok_iff.2 ⟨h', rest', heq⟩
  exact Except.ok.inj (hread.symm.trans hread')

end MethodDescriptor

end NativeFlow
