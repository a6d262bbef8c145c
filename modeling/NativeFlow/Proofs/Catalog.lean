import Mathlib.Data.List.Dedup
import Mathlib.Data.List.TakeWhile
import Mathlib.Data.Nat.Digits.Defs
import NativeFlow.Proofs.Registry
import NativeFlow.Proofs.Utf8

namespace NativeFlow

/-!
# A catalog is the union of its lines

Every line says something about one method at most, and what an earlier line says comes first. So a
catalog is known from its lines one by one.

* `Catalog.lines`, `Catalog.lines_append`: the lines of a text.
* `Catalog.ofBytes_encode`: a file that holds a text is loaded as the catalog of the text.
* `Numeral.Spells`, `Numeral.ofText?_eq_some_iff`: the texts that are numbers.
* `Catalog.Idle`, `Catalog.Entry.ofLine?_eq_none_iff`: the lines without an entry.
* `Catalog.classify_ofLines_append`: the union of two lists of lines, in which the first one counts.
* `Catalog.classify_append`: the same for texts.
* `Catalog.size_ofLines`: the number of methods.
* `Catalog.ofText_union`: texts, their lines and their methods together.
-/

/-! ### Numbers -/

namespace Numeral

/-- A text spells a number: there are digits and nothing else in it, but for a plus sign that may
stand in front, and the last digit counts ones. -/
def Spells (text : String) (value : Nat) : Prop :=
  ∃ digits : List Char, (text.toList = digits ∨ text.toList = '+' :: digits) ∧ digits ≠ [] ∧
    (∀ c ∈ digits, '0' ≤ c ∧ c ≤ '9') ∧
    Nat.ofDigits 10 (digits.reverse.map fun c => c.toNat - '0'.toNat) = value

/-- `isDigit` accepts the ten digits. -/
theorem isDigit_iff {c : Char} : isDigit c = true ↔ '0' ≤ c ∧ c ≤ '9' := by
  rw [isDigit, digit?]
  split
  case isTrue h => exact iff_of_true rfl h
  case isFalse h => exact iff_of_false (by simp) h

/-- The digits of a number in the order of `Nat.ofDigits`, which starts with the ones. -/
theorem ofDigits_eq {digits : List Char} (h : ∀ c ∈ digits, '0' ≤ c ∧ c ≤ '9') :
    Nat.ofDigits 10 (digits.reverse.map fun c => c.toNat - '0'.toNat) = ofDigits digits := by
  rw [Nat.ofDigits_eq_foldr, List.foldr_map, List.foldr_reverse, ofDigits]
  refine List.foldl_ext _ _ _ fun value c hc => ?_
  rw [digit?, if_pos (h c hc), Option.getD_some, Nat.cast_id, Nat.add_comm, Nat.mul_comm]

/-- Digits are a number if there are any and nothing else is among them. -/
theorem ofDigits?_eq_some_iff {digits : List Char} {value : Nat} :
    ofDigits? digits = some value ↔ digits ≠ [] ∧ (∀ c ∈ digits, '0' ≤ c ∧ c ≤ '9') ∧
      Nat.ofDigits 10 (digits.reverse.map fun c => c.toNat - '0'.toNat) = value := by
  simp only [ofDigits?, List.all_eq_true, isDigit_iff, Option.ite_none_right_eq_some,
    Option.some.injEq, and_assoc]
  refine and_congr_right fun _ => and_congr_right fun hdigits => ?_
  rw [ofDigits_eq hdigits]

/-- **The texts that are numbers.** -/
theorem ofText?_eq_some_iff {bound value : Nat} {text : String} :
    ofText? bound text = some value ↔ Spells text value ∧ value < bound := by
  have hplus : ¬ ('0' ≤ '+' ∧ '+' ≤ '9') := by decide
  rw [ofText?, Option.filter_eq_some_iff, decide_eq_true_eq]
  refine and_congr_left fun _ => ?_
  split
  case h_1 rest htext =>
    rw [ofDigits?_eq_some_iff]
    constructor
    · rintro ⟨hne, hdigits, hvalue⟩
      exact ⟨rest, .inr htext, hne, hdigits, hvalue⟩
    · rintro ⟨digits, hspelled | hspelled, hne, hdigits, hvalue⟩
      · -- The sign in front is no digit.
        exact absurd (hdigits '+' (by rw [← hspelled, htext]; exact List.mem_cons_self)) hplus
      · obtain rfl : rest = digits := List.tail_eq_of_cons_eq (htext.symm.trans hspelled)
        exact ⟨hne, hdigits, hvalue⟩
  case h_2 hsign =>
    rw [ofDigits?_eq_some_iff]
    constructor
    · rintro ⟨hne, hdigits, hvalue⟩
      exact ⟨_, .inl rfl, hne, hdigits, hvalue⟩
    · rintro ⟨digits, rfl | hspelled, hne, hdigits, hvalue⟩
      · exact ⟨hne, hdigits, hvalue⟩
      · exact absurd hspelled (hsign digits)

end Numeral

/-! ### White space -/

namespace Blank

/-- Closing a division adds the field that was being read, if there is one. -/
theorem Division.close_done_eq_nil_iff {d : Division} :
    d.close.done = [] ↔ d.done = [] ∧ d.current = [] := by
  obtain ⟨done, current⟩ := d
  cases current with
  | nil => simp [close]
  | cons c chars => simp [close]

/-- A line is divided into no fields at all if nothing has been read before and all of it is white
space. -/
theorem Division.foldl_step_eq_nil_iff {chars : List Char} {d : Division} :
    (chars.foldl step d).close.done = [] ↔
      (d.done = [] ∧ d.current = []) ∧ ∀ c ∈ chars, isBlank c = true := by
  induction chars generalizing d with
  | nil => simp [close_done_eq_nil_iff]
  | cons c chars ih =>
    rw [List.foldl_cons, ih, List.forall_mem_cons]
    by_cases hc : isBlank c = true
    -- White space closes the field; it was empty if and only if it still is.
    · have hstep : step d c = d.close := if_pos hc
      have hclosed : d.close.current = [] := by
        unfold close
        split
        · assumption
        · rfl
      rw [hstep, close_done_eq_nil_iff]
      simp [hclosed, hc]
    -- Any other character is in a field, which is then not empty any more.
    · have hstep : step d c = { d with current := c :: d.current } := if_neg hc
      rw [hstep]
      simp [hc]

/-- A line has no fields if all of it is white space. -/
theorem fields_eq_nil_iff {line : String} :
    fields line = [] ↔ ∀ c ∈ line.toList, isBlank c = true := by
  rw [fields, List.reverse_eq_nil_iff, Division.foldl_step_eq_nil_iff]
  simp

end Blank

namespace Catalog

/-! ### Lines -/

section Splitting

variable {α : Type} [DecidableEq α] (newline : α)

/-- The loop of `splitLines`: what it has put aside and the line that it has started are those of
`List.splitOnPPrepend`, which the library knows more about. -/
theorem foldl_splitLines (text : List α) (done : List (List α)) (current : List α) :
    ∃ done' last, text.foldl (fun (state : List (List α) × List α) c =>
        if c = newline then (state.2.reverse :: state.1, []) else (state.1, c :: state.2))
        (done, current) = (done', last) ∧
      (last.reverse :: done').reverse =
        done.reverse ++ text.splitOnPPrepend (fun c => decide (c = newline)) current := by
  induction text generalizing done current with
  | nil => exact ⟨done, current, rfl, by simp⟩
  | cons c text ih =>
    -- A newline puts the started line aside; any other character goes to it.
    by_cases hc : c = newline
    · obtain ⟨done', last, hfold, hlines⟩ := ih (current.reverse :: done) []
      refine ⟨done', last, by simpa [hc] using hfold, ?_⟩
      have hsplit : (c :: text).splitOnPPrepend (fun c => decide (c = newline)) current =
          current.reverse :: text.splitOnP (fun c => decide (c = newline)) :=
        List.splitOnPPrepend_cons_pos (decide_eq_true hc)
      rw [hlines, hsplit]
      simp
    · obtain ⟨done', last, hfold, hlines⟩ := ih done (c :: current)
      refine ⟨done', last, by simpa [hc] using hfold, ?_⟩
      rw [hlines, List.splitOnPPrepend_cons_neg (by simpa using hc)]

/-- `splitLines` is the splitting of the library. -/
theorem splitLines_eq (text : List α) :
    splitLines newline text = text.splitOnP (fun c => decide (c = newline)) := by
  obtain ⟨done, last, hfold, hlines⟩ := foldl_splitLines newline text [] []
  rw [List.splitOnP_eq_splitOnPPrepend]
  unfold splitLines
  simp only [hfold, hlines]
  rfl

variable {newline}

/-- The lines in front of a newline and those behind it. -/
theorem splitLines_append (front back : List α) :
    splitLines newline (front ++ newline :: back) =
      splitLines newline front ++ splitLines newline back := by
  simp only [splitLines_eq]
  exact List.splitOnP_append_cons front back (decide_eq_true rfl)

/-- Without a newline there is one line. -/
theorem splitLines_of_not_mem {line : List α} (h : newline ∉ line) :
    splitLines newline line = [line] := by
  rw [splitLines_eq]
  refine List.splitOnP_eq_singleton fun c hc => decide_eq_false ?_
  rintro rfl
  exact h hc

end Splitting

/-- The lines of a text. Behind a newline at the end there is one more line, which is empty. -/
def lines (text : String) : List String := (splitLines '\n' text.toList).map String.ofList

/-- The lines in front of a newline and those behind it, for texts. -/
theorem lines_append (front back : String) :
    lines (front ++ "\n" ++ back) = lines front ++ lines back := by
  have hchars : (front ++ "\n" ++ back).toList = front.toList ++ '\n' :: back.toList := by simp
  rw [lines, hchars, splitLines_append, List.map_append]
  rfl

/-- A text without a newline is a single line. -/
theorem lines_of_not_mem {line : String} (h : '\n' ∉ line.toList) : lines line = [line] := by
  simp [lines, splitLines_of_not_mem h]

/-! ### Files -/

/-- The lines of a file are the bytes of the lines of its text, since no other character has a
byte that ends a line. -/
theorem splitLines_encode (chars : List Char) :
    splitLines 10 (chars.flatMap String.utf8EncodeChar) =
      (splitLines '\n' chars).map (·.flatMap String.utf8EncodeChar) := by
  -- On the number of characters: the first line, and what is behind it.
  induction hlength : chars.length using Nat.strong_induction_on generalizing chars with
  | _ length ih =>
    have hfree (line : List Char) (hline : '\n' ∉ line) :
        (10 : UInt8) ∉ line.flatMap String.utf8EncodeChar := by
      intro hmem
      obtain ⟨c, hc, hbyte⟩ := List.mem_flatMap.1 hmem
      have hnewline : c = '\n' := Utf8.eq_of_mem_encodeChar (by decide) hbyte
      exact hline (hnewline ▸ hc)
    by_cases hnewline : '\n' ∈ chars
    · obtain ⟨front, back, rfl, hfront⟩ := List.eq_append_cons_of_mem hnewline
      have hbytes : (front ++ '\n' :: back).flatMap String.utf8EncodeChar =
          front.flatMap String.utf8EncodeChar ++ 10 :: back.flatMap String.utf8EncodeChar := by
        rw [List.flatMap_append, List.flatMap_cons]
        rfl
      have hback := ih back.length (by simp at hlength; omega) back rfl
      rw [hbytes, splitLines_append, splitLines_append, hback, splitLines_of_not_mem hfront,
        splitLines_of_not_mem (hfree front hfront)]
      rfl
    · rw [splitLines_of_not_mem hnewline, splitLines_of_not_mem (hfree chars hnewline)]
      rfl

/-- **A file that holds a text** is loaded, as the catalog of the text. -/
theorem ofBytes_encode (text : String) : ofBytes (Utf8.encode text) = .ok (ofText text) := by
  have hlines : (splitLines 10 (Utf8.encode text)).map Utf8.decode? = (lines text).map some := by
    rw [Utf8.encode, splitLines_encode, lines, List.map_map, List.map_map]
    refine List.map_congr_left fun line _ => ?_
    have hline : line.flatMap String.utf8EncodeChar = Utf8.encode (String.ofList line) := by
      rw [Utf8.encode, String.toList_ofList]
    exact (congrArg Utf8.decode? hline).trans (Utf8.decode?_encode _)
  -- No line is broken, so all of them are kept.
  have hgood : ((lines text).map some).findIdx? Option.isNone = none := by
    simp [List.findIdx?_eq_none_iff]
  rw [ofBytes, hlines]
  simp only [hgood]
  have hall : ((lines text).map some).filterMap id = lines text := by simp
  rw [hall]
  rfl

/-! ### Lines without an entry -/

/-- A line that has no entry: it is white space, it is a comment, it has no marker, or it marks a
sink with a position that spells no number of 64 bits. -/
inductive Idle (line : String) : Prop
  | blank (h : ∀ c ∈ line.toList, Blank.isBlank c = true)
  | comment (signature : String) (hfirst : (Blank.fields line).head? = some signature)
      (h : signature.toList.head? = some '#')
  | unmarked (hsource : sourceMarker ∉ Blank.fields line) (hsink : sinkMarker ∉ Blank.fields line)
  | position (before after : List String) (position : String)
      (hfields : Blank.fields line = before ++ sinkMarker :: position :: after)
      (hsource : sourceMarker ∉ Blank.fields line) (hfirst : sinkMarker ∉ before)
      (h : ∀ value < 2 ^ 64, ¬ Numeral.Spells position value)

/-- What a line marks as a sink: the field behind the first marker is the position. -/
theorem classificationOfFields?_sink {before after : List String}
    (hsource : sourceMarker ∉ before ++ sinkMarker :: after) (hbefore : sinkMarker ∉ before) :
    classificationOfFields? (before ++ sinkMarker :: after) =
      match after with
      | [] => some (.sink .all)
      | position :: _ =>
        (Numeral.ofText? positionBound position).map fun index => .sink (.position index) := by
  have hdrop :
      (before ++ sinkMarker :: after).dropWhile (· ≠ sinkMarker) = sinkMarker :: after := by
    rw [List.dropWhile_append_of_pos, List.dropWhile_cons_of_neg (by simp)]
    intro field hmem
    refine decide_eq_true ?_
    rintro rfl
    exact hbefore hmem
  rw [classificationOfFields?, if_neg hsource, hdrop]
  cases after <;> rfl

/-- A position is rejected if it spells no number of 64 bits. -/
theorem ofText?_position_eq_none_iff {position : String} :
    Numeral.ofText? positionBound position = none ↔
      ∀ value < 2 ^ 64, ¬ Numeral.Spells position value := by
  have hbound : positionBound = 2 ^ 64 := rfl
  rw [Option.eq_none_iff_forall_ne_some, hbound]
  refine forall_congr' fun value => ?_
  rw [ne_eq, Numeral.ofText?_eq_some_iff, not_and']

/-- Fields say nothing if none of them is a marker, or if the field behind the first sink marker is
no position and there is no source marker. -/
theorem classificationOfFields?_eq_none_iff {fields : List String} :
    classificationOfFields? fields = none ↔ sourceMarker ∉ fields ∧
      (sinkMarker ∉ fields ∨ ∃ before position after,
        fields = before ++ sinkMarker :: position :: after ∧ sinkMarker ∉ before ∧
          ∀ value < 2 ^ 64, ¬ Numeral.Spells position value) := by
  constructor
  · intro hnone
    have hsource : sourceMarker ∉ fields := by
      intro hmem
      rw [classificationOfFields?, if_pos hmem] at hnone
      cases hnone
    refine ⟨hsource, ?_⟩
    -- The first sink marker decides, and only if a field follows it can it be wrong.
    by_cases hsink : sinkMarker ∈ fields
    · obtain ⟨before, after, rfl, hbefore⟩ := List.eq_append_cons_of_mem hsink
      rw [classificationOfFields?_sink hsource hbefore] at hnone
      cases after with
      | nil => cases hnone
      | cons position after =>
        exact .inr ⟨before, position, after, rfl, hbefore,
          ofText?_position_eq_none_iff.1 (Option.map_eq_none_iff.1 hnone)⟩
    · exact .inl hsink
  · rintro ⟨hsource, hsink | ⟨before, position, after, rfl, hbefore, hposition⟩⟩
    · have hdrop : fields.dropWhile (· ≠ sinkMarker) = [] := by
        refine List.dropWhile_eq_nil_iff.2 fun field hmem => decide_eq_true ?_
        rintro rfl
        exact hsink hmem
      rw [classificationOfFields?, if_neg hsource, hdrop]
    · rw [classificationOfFields?_sink hsource hbefore]
      exact Option.map_eq_none_iff.2 (ofText?_position_eq_none_iff.2 hposition)

/-- **The lines without an entry.** -/
theorem Entry.ofLine?_eq_none_iff {line : String} : Entry.ofLine? line = none ↔ Idle line := by
  constructor
  · intro hnone
    cases hfields : Blank.fields line with
    | nil => exact .blank (Blank.fields_eq_nil_iff.1 hfields)
    | cons signature rest =>
      simp only [Entry.ofLine?, hfields] at hnone
      by_cases hcomment : signature.toList.head? = some '#'
      · exact .comment signature (by rw [hfields]; rfl) hcomment
      · rw [if_neg hcomment, Option.map_eq_none_iff, ← hfields,
          classificationOfFields?_eq_none_iff] at hnone
        obtain ⟨hsource, hsink | ⟨before, position, after, heq, hbefore, hposition⟩⟩ := hnone
        · exact .unmarked hsource hsink
        · exact .position before after position heq hsource hbefore hposition
  · intro hidle
    cases hfields : Blank.fields line with
    | nil => simp only [Entry.ofLine?, hfields]
    | cons signature rest =>
      -- For the last two cases: the fields say nothing, and the line does not either.
      have hclassification (h : classificationOfFields? (Blank.fields line) = none) :
          Entry.ofLine? line = none := by
        rw [hfields] at h
        simp [Entry.ofLine?, hfields, h]
      cases hidle with
      | blank h =>
        rw [Blank.fields_eq_nil_iff.2 h] at hfields
        cases hfields
      | comment first hfirst h =>
        rw [hfields] at hfirst
        cases hfirst
        simp only [Entry.ofLine?, hfields, if_pos h]
      | unmarked hsource hsink =>
        exact hclassification (classificationOfFields?_eq_none_iff.2 ⟨hsource, .inl hsink⟩)
      | position before after position heq hsource hbefore h =>
        exact hclassification (classificationOfFields?_eq_none_iff.2
          ⟨hsource, .inr ⟨before, position, after, heq, hbefore, h⟩⟩)

instance (line : String) : Decidable (Idle line) :=
  decidable_of_iff ((Entry.ofLine? line).isNone = true)
    (Option.isNone_iff_eq_none.trans Entry.ofLine?_eq_none_iff)

/-- The entry on a line that has one is for the method in its first field. -/
theorem Entry.ofLine?_of_not_idle {line : String} (h : ¬ Idle line) :
    ∃ entry, Entry.ofLine? line = some entry ∧
      (Blank.fields line).head? = some entry.signature ∧
      classificationOfFields? (Blank.fields line) = some entry.classification := by
  obtain ⟨entry, hentry⟩ := Option.ne_none_iff_exists'.1 (mt Entry.ofLine?_eq_none_iff.1 h)
  refine ⟨entry, hentry, ?_⟩
  cases hfields : Blank.fields line with
  | nil => simp [Entry.ofLine?, hfields] at hentry
  | cons signature rest =>
    simp only [Entry.ofLine?, hfields] at hentry
    split at hentry
    · cases hentry
    · obtain ⟨classification, hclassification, rfl⟩ := Option.map_eq_some_iff.1 hentry
      exact ⟨rfl, hclassification⟩

/-! ### The union of lines -/

/-- Adding entries one after the other: an entry counts if nothing before it was about its method.
-/
theorem classify_foldl_add (catalog : Catalog) (entries : List Entry) (signature : String) :
    (entries.foldl add catalog).classify signature =
      (catalog.classify signature).or
        ((entries.find? (·.signature = signature)).map (·.classification)) := by
  induction entries generalizing catalog with
  | nil => simp
  | cons entry entries ih =>
    rw [List.foldl_cons, ih, classify_add, Option.or_assoc]
    by_cases hsignature : entry.signature = signature
    · simp [hsignature]
    · simp [hsignature, Ne.symm hsignature]

/-- The first entry of a method counts. -/
theorem classify_ofLines (lines : List String) (signature : String) :
    (ofLines lines).classify signature =
      ((lines.filterMap Entry.ofLine?).find? (·.signature = signature)).map (·.classification) := by
  rw [ofLines, classify_foldl_add]
  rfl

/-- **The union of two lists of lines,** in which the first one counts. -/
theorem classify_ofLines_append (front back : List String) (signature : String) :
    (ofLines (front ++ back)).classify signature =
      ((ofLines front).classify signature).or ((ofLines back).classify signature) := by
  simp only [classify_ofLines, List.filterMap_append, List.find?_append, Option.map_or]

/-- What a single line says about a method. -/
theorem classify_line (line signature : String) :
    (ofLines [line]).classify signature =
      if ¬ Idle line ∧ (Blank.fields line).head? = some signature then
        classificationOfFields? (Blank.fields line) else none := by
  rw [classify_ofLines]
  by_cases hidle : Idle line
  · simp [Entry.ofLine?_eq_none_iff.2 hidle, hidle]
  · obtain ⟨entry, hentry, hfirst, hclassification⟩ := Entry.ofLine?_of_not_idle hidle
    rw [hfirst, hclassification]
    by_cases hsignature : entry.signature = signature <;> simp [hentry, hidle, hsignature]

/-- What an idle line says about methods is nothing. -/
theorem classify_of_idle {line : String} (h : Idle line) (signature : String) :
    (ofLines [line]).classify signature = none := by
  rw [classify_line, if_neg fun hentry => hentry.1 h]

/-- Two lines for different methods may change places. -/
theorem classify_exchange {line line' : String}
    (h : (Blank.fields line).head? ≠ (Blank.fields line').head?) (signature : String) :
    ((ofLines [line]).classify signature).or ((ofLines [line']).classify signature) =
      ((ofLines [line']).classify signature).or ((ofLines [line]).classify signature) := by
  -- At most one of the lines is about the method, so their order does not matter.
  by_cases hfirst : (Blank.fields line).head? = some signature
  · have hother : (ofLines [line']).classify signature = none := by
      rw [classify_line, if_neg fun hentry => h (hfirst.trans hentry.2.symm)]
    rw [hother, Option.or_none, Option.none_or]
  · have hother : (ofLines [line]).classify signature = none := by
      rw [classify_line, if_neg fun hentry => hfirst hentry.2]
    rw [hother, Option.or_none, Option.none_or]

/-! ### The union of texts -/

/-- A text that ends with its last line: it is empty, or there is a newline at its end. -/
def Ended (text : String) : Prop := text = "" ∨ ∃ front, text = front ++ "\n"

/-- The empty line is idle. -/
theorem idle_empty : Idle "" := .blank (by simp)

/-- A text of one line says what the line says. -/
theorem classify_of_not_mem {line : String} (h : '\n' ∉ line.toList) (signature : String) :
    (ofText line).classify signature = (ofLines [line]).classify signature := by
  show (ofLines (lines line)).classify signature = _
  rw [lines_of_not_mem h]

/-- Two texts with a newline between them. -/
theorem classify_append_newline (front back signature : String) :
    (ofText (front ++ "\n" ++ back)).classify signature =
      ((ofText front).classify signature).or ((ofText back).classify signature) := by
  show (ofLines (lines _)).classify signature = _
  rw [lines_append, classify_ofLines_append]
  rfl

/-- An empty text says nothing. -/
theorem classify_empty (signature : String) : (ofText "").classify signature = none := by
  rw [classify_of_not_mem (by simp), classify_of_idle idle_empty]

/-- A newline at the end makes no difference. -/
theorem classify_newline (text signature : String) :
    (ofText (text ++ "\n")).classify signature = (ofText text).classify signature := by
  have hunion := classify_append_newline text "" signature
  rwa [String.append_empty, classify_empty, Option.or_none] at hunion

/-- **The union of two texts,** in which the first one counts. -/
theorem classify_append {front : String} (h : Ended front) (back signature : String) :
    (ofText (front ++ back)).classify signature =
      ((ofText front).classify signature).or ((ofText back).classify signature) := by
  rcases h with rfl | ⟨front, rfl⟩
  · rw [String.empty_append, classify_empty, Option.none_or]
  · rw [classify_append_newline, classify_newline]

/-- A text with a newline at its end is `Ended`. -/
theorem ended_append_newline (text : String) : Ended (text ++ "\n") := .inr ⟨text, rfl⟩

/-- A line behind an ended text. -/
theorem classify_append_line {front line : String} (hfront : Ended front)
    (hline : '\n' ∉ line.toList) (signature : String) :
    (ofText (front ++ line)).classify signature =
      ((ofText front).classify signature).or ((ofLines [line]).classify signature) := by
  rw [classify_append hfront, classify_of_not_mem hline]

/-- A line between an ended text and another one. -/
theorem classify_append_line_append {front line : String} (hfront : Ended front)
    (hline : '\n' ∉ line.toList) (back signature : String) :
    (ofText (front ++ line ++ "\n" ++ back)).classify signature =
      ((ofText front).classify signature).or
        (((ofLines [line]).classify signature).or ((ofText back).classify signature)) := by
  rw [classify_append_newline, classify_append_line hfront hline, Option.or_assoc]

/-- Two lines behind an ended text. -/
theorem classify_append_pair {front line line' : String} (hfront : Ended front)
    (hline : '\n' ∉ line.toList) (hline' : '\n' ∉ line'.toList) (signature : String) :
    (ofText (front ++ line ++ "\n" ++ line')).classify signature =
      ((ofText front).classify signature).or
        (((ofLines [line]).classify signature).or ((ofLines [line']).classify signature)) := by
  rw [classify_append_line_append hfront hline, classify_of_not_mem hline']

/-! ### The number of methods -/

/-- A method is listed if it is a key of the entries. -/
theorem isSome_classify_iff {catalog : Catalog} {signature : String} :
    (catalog.classify signature).isSome = true ↔ signature ∈ catalog.entries.keys :=
  SortedMap.mem_keys_iff.symm

/-- The methods that some lines have entries of, once for each of these lines. -/
def signatures (lines : List String) : List String :=
  (lines.filter fun line => ¬ Idle line).filterMap fun line => (Blank.fields line).head?

/-- `signatures` has the first fields of the lines that are not idle. -/
theorem mem_signatures_iff {lines : List String} {signature : String} :
    signature ∈ signatures lines ↔
      ∃ line ∈ lines, ¬ Idle line ∧ (Blank.fields line).head? = some signature := by
  simp [signatures, and_assoc]

/-- A catalog lists the methods that have an entry on some line. -/
theorem isSome_classify_ofLines_iff {lines : List String} {signature : String} :
    ((ofLines lines).classify signature).isSome = true ↔ signature ∈ signatures lines := by
  induction lines with
  | nil => simp [classify_ofLines, signatures]
  | cons line lines ih =>
    rw [← List.singleton_append, classify_ofLines_append, Option.isSome_or, Bool.or_eq_true, ih,
      mem_signatures_iff, mem_signatures_iff, classify_line]
    by_cases hentry : ¬ Idle line ∧ (Blank.fields line).head? = some signature
    · obtain ⟨entry, -, -, hclassification⟩ := Entry.ofLine?_of_not_idle hentry.1
      simp [hentry, hclassification]
    · rw [if_neg hentry]
      simp [hentry]

/-- **The number of methods** is that of the first fields of all lines with an entry. -/
theorem size_ofLines (lines : List String) :
    (ofLines lines).size = (signatures lines).dedup.length := by
  -- Both lists have every method once, and they have the same methods.
  have hperm : (ofLines lines).entries.keys.Perm (signatures lines).dedup := by
    refine (List.perm_ext_iff_of_nodup (SortedMap.nodup_keys _) (List.nodup_dedup _)).2 ?_
    intro signature
    rw [List.mem_dedup, ← isSome_classify_iff, isSome_classify_ofLines_iff]
  have hlength := hperm.length_eq
  rwa [SortedMap.length_keys] at hlength

/-- **A catalog is the union of its lines.** A file that holds a text is loaded as the catalog of
the text. Of two texts the first one counts, if it ends with its last line; a single line says what
its fields say, unless it is idle. So an idle line can be taken out anywhere, and two lines that
follow each other can change places if their first fields differ. The methods that are listed are
the first fields of the lines that are not idle, each counted once. -/
theorem ofText_union :
    (∀ text, ofBytes (Utf8.encode text) = .ok (ofText text)) ∧
    (∀ front back signature, Ended front →
      (ofText (front ++ back)).classify signature =
        ((ofText front).classify signature).or ((ofText back).classify signature)) ∧
    (∀ line signature, '\n' ∉ line.toList →
      (ofText line).classify signature =
        if ¬ Idle line ∧ (Blank.fields line).head? = some signature then
          classificationOfFields? (Blank.fields line) else none) ∧
    (∀ front line back signature, Ended front → '\n' ∉ line.toList → Idle line →
      (ofText (front ++ line ++ "\n" ++ back)).classify signature =
        (ofText (front ++ back)).classify signature ∧
      (ofText (front ++ line)).classify signature = (ofText front).classify signature) ∧
    (∀ front line line' back signature, Ended front → '\n' ∉ line.toList → '\n' ∉ line'.toList →
      (Blank.fields line).head? ≠ (Blank.fields line').head? →
      (ofText (front ++ line ++ "\n" ++ line' ++ "\n" ++ back)).classify signature =
        (ofText (front ++ line' ++ "\n" ++ line ++ "\n" ++ back)).classify signature ∧
      (ofText (front ++ line ++ "\n" ++ line')).classify signature =
        (ofText (front ++ line' ++ "\n" ++ line)).classify signature) ∧
    (∀ text, (ofText text).size = (signatures (lines text)).dedup.length) := by
  refine ⟨ofBytes_encode, fun front back signature hfront => classify_append hfront back signature,
    fun line signature hline => ?_, ?_, ?_, fun text => size_ofLines (lines text)⟩
  · rw [classify_of_not_mem hline, classify_line]
  · intro front line back signature hfront hline hidle
    constructor
    · rw [classify_append_line_append hfront hline, classify_of_idle hidle, Option.none_or,
        classify_append hfront]
    · rw [classify_append_line hfront hline, classify_of_idle hidle, Option.or_none]
  · intro front line line' back signature hfront hline hline' hfields
    have hpair : (ofText (front ++ line ++ "\n" ++ line')).classify signature =
        (ofText (front ++ line' ++ "\n" ++ line)).classify signature := by
      rw [classify_append_pair hfront hline hline', classify_append_pair hfront hline' hline,
        classify_exchange hfields]
    -- What follows the two lines comes after both, in either order.
    refine ⟨?_, hpair⟩
    rw [classify_append_newline, classify_append_newline _ back, hpair]

/-- A sink with a position that is no number. -/
def brokenLine : String := "write DATA -> _SINK_ first"

/-- The same sink with a good position. -/
def sinkLine : String := "write DATA -> _SINK_ 2"

/-- A source. -/
def sourceLine : String := "read IMEI -> _SOURCE_"

set_option maxRecDepth 20000 in
/-- The broken line does not hide the good one behind it, and the source may stand on either side of
the sink. There are two methods. -/
theorem ofText_union_streams :
    (ofText ("# streams\n" ++ brokenLine ++ "\n" ++ sinkLine)).classify "write" =
      some (.sink (.position 2)) ∧
    (ofText ("# streams\n" ++ sourceLine ++ "\n" ++ sinkLine)).classify "write" =
      (ofText ("# streams\n" ++ sinkLine ++ "\n" ++ sourceLine)).classify "write" ∧
    (ofText ("# streams\n" ++ sourceLine ++ "\n" ++ sinkLine)).size = 2 := by
  obtain ⟨-, -, -, hdelete, hexchange, hsize⟩ := ofText_union
  have hended : Ended "# streams\n" := ended_append_newline "# streams"
  refine ⟨?_, ?_, ?_⟩
  · rw [(hdelete _ _ _ "write" hended (by decide) (by decide : Idle brokenLine)).1]
    rfl
  · exact (hexchange _ _ _ "" "write" hended (by decide) (by decide) (by decide)).2
  · rw [hsize]
    decide +kernel

end Catalog

end NativeFlow
