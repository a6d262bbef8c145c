import NativeFlow.Json.Reader
import NativeFlow.Proofs.Json.Spelling

namespace NativeFlow.Reader

open Json (Blank HexDigit HexUnit CharSpelled Unquoted)

/-!
# Numbers and strings are read

A reader runs on a text and leaves the rest of it. The lemmas here follow the readers of the
smallest parts of a JSON text step by step.

* `bind_of_ok`, `token?_of_blank`: steps of a reader.
* `Rounds`: a repetition, which ends because every round reads something.
* `number_decimal`: a natural number of 64 bits.
* `stringBody_of_unquoted`: a string, whatever the spelling of its characters.
-/

variable {α β σ : Type} {text rest : List Char}

/-! ### Steps -/

/-- A reader that goes on with what another one has read. -/
theorem bind_of_ok {x : Reader α} {f : α → Reader β} {a : α} (h : x text = .ok (a, rest)) :
    (x >>= f) text = f a rest := by
  simp only [bind, StateT.bind, h, Except.bind]

/-- `within` puts a step on the path of an error; what is read without one stays as it is. -/
theorem within_of_ok {step : PathStep} {reader : Reader α} {a : α}
    (h : reader text = .ok (a, rest)) : within step reader text = .ok (a, rest) := by
  simp only [within, h]

@[simp] theorem next?_cons (c : Char) (rest : List Char) : next? (c :: rest) = .ok (some c, rest) :=
  rfl

@[simp] theorem peek?_cons (c : Char) (rest : List Char) :
    peek? (c :: rest) = .ok (some c, c :: rest) :=
  rfl

@[simp] theorem advance_cons (c : Char) (rest : List Char) : advance (c :: rest) = .ok ((), rest) :=
  rfl

/-- `Blank` text consists of what `isSpace` skips. -/
theorem isSpace_of_blank {blanks : List Char} (h : Blank blanks) : ∀ c ∈ blanks, isSpace c := by
  intro c hc
  have hspaces : [' ', '\n', '\t', '\r'].all isSpace := by decide
  exact List.all_eq_true.1 hspaces c (h c hc)

/-- White space in front of a token is skipped. -/
theorem token?_of_blank {blanks : List Char} {c : Char} (h : Blank blanks) (hc : isSpace c = false)
    (rest : List Char) : token? (blanks ++ c :: rest) = .ok (some c, c :: rest) := by
  have hdrop : (blanks ++ c :: rest).dropWhile isSpace = c :: rest := by
    rw [List.dropWhile_append_of_pos (isSpace_of_blank h),
      List.dropWhile_cons_of_neg (by simp [hc])]
  calc token? (blanks ++ c :: rest)
    _ = peek? ((blanks ++ c :: rest).dropWhile isSpace) := rfl
    _ = .ok (some c, c :: rest) := by rw [hdrop, peek?_cons]

/-- A repetition of `step` that comes to a result; every round leaves less of the text. -/
inductive Rounds (step : σ → Reader (σ ⊕ α)) : σ → List Char → α → List Char → Prop
  | last {s : σ} {text : List Char} {a : α} {rest : List Char}
      (h : step s text = .ok (.inr a, rest)) (hless : rest.length < text.length) :
    Rounds step s text a rest
  | round {s s' : σ} {text text' : List Char} {a : α} {rest : List Char}
      (h : step s text = .ok (.inl s', text')) (hless : text'.length < text.length)
      (hrounds : Rounds step s' text' a rest) :
    Rounds step s text a rest

/-- The clock runs as long as the text is. -/
theorem Rounds.go {step : σ → Reader (σ ⊕ α)} {s : σ} {a : α} (h : Rounds step s text a rest)
    {clock : List Char} (hclock : text.length ≤ clock.length) :
    repeatUntil.go step clock s text = .ok (a, rest) := by
  -- Induction on the rounds. Each one takes a character of the clock and at least one of the text.
  induction h generalizing clock with
  | last h hless =>
    cases clock with
    | nil => simp only [List.length_nil] at hclock; omega
    | cons c clock => simp only [repeatUntil.go, h]
  | round h hless _ ih =>
    cases clock with
    | nil => simp only [List.length_nil] at hclock; omega
    | cons c clock =>
      simp only [List.length_cons] at hclock
      simp only [repeatUntil.go, h]
      exact ih (by omega)

/-- **Repetitions end.** `repeatUntil` comes to the result of `Rounds`: its clock is the text
itself. -/
theorem Rounds.repeatUntil {step : σ → Reader (σ ⊕ α)} {s : σ} {a : α}
    (h : Rounds step s text a rest) : repeatUntil step s text = .ok (a, rest) :=
  h.go (Nat.le_refl _)

/-! ### Numbers -/

/-- The decimal digits. -/
def decimalDigits : List Char := ['0', '1', '2', '3', '4', '5', '6', '7', '8', '9']

/-- The characters that may follow a value: white space, a comma and the closing brackets. -/
def separators : List Char := [' ', '\n', '\t', '\r', ',', ']', '\x7d']

/-- A text that begins where a value has ended. -/
def Separated (rest : List Char) : Prop := ∃ c after, rest = c :: after ∧ c ∈ separators

/-- A digit is taken for nothing else where a value begins. -/
theorem of_mem_decimalDigits {c : Char} (h : c ∈ decimalDigits) :
    Numeral.isDigit c = true ∧ isSpace c = false ∧ c ≠ ']' ∧ c ≠ '-' := by
  simp only [decimalDigits, List.mem_cons, List.not_mem_nil, or_false] at h
  rcases h with rfl | rfl | rfl | rfl | rfl | rfl | rfl | rfl | rfl | rfl <;> decide

/-- None of the characters that may follow a value could belong to a number. -/
theorem of_mem_separators {c : Char} (h : c ∈ separators) :
    Numeral.isDigit c = false ∧ c ≠ '.' ∧ c ≠ 'e' ∧ c ≠ 'E' := by
  simp only [separators, List.mem_cons, List.not_mem_nil, or_false] at h
  rcases h with rfl | rfl | rfl | rfl | rfl | rfl | rfl <;> decide

/-- `Numeral.digit?` undoes `Nat.digitChar` on the decimal digits. -/
theorem digit?_digitChar {d : Nat} (h : d < 10) : Numeral.digit? d.digitChar = some d := by
  have hdigits : ∀ d : Fin 10, Numeral.digit? d.val.digitChar = some d.val := by decide
  exact hdigits ⟨d, h⟩

/-- **Induction on decimal digits,** from the digits of a tenth of the number. -/
theorem toDigits_induction {P : Nat → List Char → Prop}
    (hsmall : ∀ n < 10, P n [n.digitChar])
    (hlarge : ∀ n d, 0 < n → d < 10 → P n (Nat.toDigits 10 n) →
      P (n * 10 + d) (Nat.toDigits 10 n ++ [d.digitChar])) (n : Nat) :
    P n (Nat.toDigits 10 n) := by
  -- `Nat.toDigits` splits off the last digit, so the induction is on the quotient.
  induction n using Nat.strongRecOn with
  | ind n ih =>
    by_cases hn : n < 10
    · rw [Nat.toDigits_of_lt_base hn]
      exact hsmall n hn
    · rw [Nat.toDigits_of_base_le (by decide) (by omega)]
      have hparts := hlarge (n / 10) (n % 10) (by omega) (by omega) (ih (n / 10) (by omega))
      rwa [Nat.div_add_mod'] at hparts

/-- A number is written in digits and nothing else. -/
theorem isDigit_of_mem_toDigits (n : Nat) : ∀ c ∈ Nat.toDigits 10 n, Numeral.isDigit c := by
  refine toDigits_induction (P := fun _ digits => ∀ c ∈ digits, Numeral.isDigit c) ?_ ?_ n
  · intro n hn c hc
    rw [List.mem_singleton.1 hc, Numeral.isDigit, digit?_digitChar hn]
    rfl
  · intro n d _ hd ih c hc
    rcases List.mem_append.1 hc with hc | hc
    · exact ih c hc
    · rw [List.mem_singleton.1 hc, Numeral.isDigit, digit?_digitChar hd]
      rfl

/-- No digit follows a zero at the front. -/
theorem head?_toDigits (n : Nat) :
    (Nat.toDigits 10 n).head? = some '0' → (Nat.toDigits 10 n).length = 1 := by
  -- A number that is not zero has another digit in front, so only one that is below ten is left.
  have hpositive : 0 < n → (Nat.toDigits 10 n).head? ≠ some '0' := by
    refine toDigits_induction (P := fun n digits => 0 < n → digits.head? ≠ some '0') ?_ ?_ n
    · intro n hn hpos
      have hdigits : ∀ d : Fin 10, 0 < d.val → [d.val.digitChar].head? ≠ some '0' := by decide
      exact hdigits ⟨n, hn⟩ hpos
    · intro n d hn _ ih _
      obtain ⟨c, tail, hdigits⟩ :=
        List.exists_cons_of_ne_nil (Nat.toDigits_ne_nil (n := n) (b := 10))
      rw [hdigits] at ih ⊢
      exact ih hn
  intro hzero
  have hn : n = 0 := Nat.eq_zero_of_not_pos fun hpos => hpositive hpos hzero
  rw [hn]
  rfl

/-- `Numeral.ofDigits` undoes `Nat.toDigits 10`. -/
theorem ofDigits_toDigits (n : Nat) : Numeral.ofDigits (Nat.toDigits 10 n) = n := by
  refine toDigits_induction (P := fun n digits => Numeral.ofDigits digits = n) ?_ ?_ n
  · intro n hn
    simp [Numeral.ofDigits, digit?_digitChar hn]
  · intro n d _ hd ih
    rw [Numeral.ofDigits] at ih ⊢
    rw [List.foldl_append, ih]
    simp [digit?_digitChar hd]

/-- The significand takes in all digits of a number of 64 bits. -/
theorem foldl_pushWhole_toDigits (n : Nat) : n < Written.bound →
    (Nat.toDigits 10 n).foldl Written.Scaled.pushWhole {} = { significand := n } := by
  refine toDigits_induction (P := fun n digits => n < Written.bound →
    digits.foldl Written.Scaled.pushWhole {} = { significand := n }) ?_ ?_ n
  · intro n hn hbound
    simp [Written.Scaled.pushWhole, digit?_digitChar hn, Nat.not_le.2 hbound]
  · intro n d _ hd ih hbound
    rw [List.foldl_append, ih (by omega)]
    simp [Written.Scaled.pushWhole, digit?_digitChar hd, Nat.not_le.2 hbound]

/-- Rounding to a double less than doubles a number: the unit in the last place is no larger than
the number itself. -/
theorem roundToDouble_le (n : Nat) : Written.roundToDouble n ≤ 2 * n := by
  by_cases hn : n = 0
  · subst hn
    decide
  have hunit : Nat.pow 2 (n.log2 - 52) ≤ n :=
    Nat.le_trans (Nat.pow_le_pow_right (by decide) (Nat.sub_le _ _)) (Nat.log2_self_le hn)
  have hquotient : n / Nat.pow 2 (n.log2 - 52) * Nat.pow 2 (n.log2 - 52) ≤ n :=
    Nat.div_mul_le_self _ _
  unfold Written.roundToDouble
  dsimp only
  split
  · rw [Nat.add_mul, Nat.one_mul]
    omega
  · omega

/-- The number `n` as it is written. -/
def decimal (n : Nat) : Written := ⟨false, Nat.toDigits 10 n, none, none⟩

/-- A number of 64 bits is far from infinity. -/
theorem inRange_decimal {n : Nat} (h : n < Written.bound) : (decimal n).inRange := by
  have hscaled : (decimal n).scaled = { significand := n } := by
    rw [Written.scaled, decimal, foldl_pushWhole_toDigits n h]
    rfl
  have hone : Written.roundToDouble (Nat.pow 10 (Int.toNat 0)) = 1 := by decide
  have hlimit : 2 * Written.bound < Nat.pow 2 1024 - Nat.pow 2 970 := by decide +kernel
  have hround := roundToDouble_le n
  rw [Written.inRange, hscaled]
  simp only [hone, Nat.mul_one]
  have hsmall : Written.roundToDouble n < Nat.pow 2 1024 - Nat.pow 2 970 := by omega
  rw [decide_eq_true hsmall]
  simp

/-- A natural number below the bound is kept as such. -/
theorem toJson_decimal {n : Nat} (h : n < Written.bound) : (decimal n).toJson = .natural n := by
  simp only [Written.toJson, decimal, ofDigits_toDigits, if_pos h]

/-- `digits` takes all digits of a run and stops at a separator. -/
theorem digits_append {run : List Char} (hrun : ∀ c ∈ run, Numeral.isDigit c)
    (hrest : Separated rest) : digits (run ++ rest) = .ok (run, rest) := by
  obtain ⟨c, after, rfl, hc⟩ := hrest
  have hstop := (of_mem_separators hc).1
  rw [digits, List.takeWhile_append_of_pos hrun, List.dropWhile_append_of_pos hrun,
    List.takeWhile_cons_of_neg (by simp [hstop]), List.append_nil,
    List.dropWhile_cons_of_neg (by simp [hstop])]

theorem someDigits_append {run : List Char} (hrun : ∀ c ∈ run, Numeral.isDigit c) (hne : run ≠ [])
    (hrest : Separated rest) (atEnd : ReadError) :
    someDigits atEnd (run ++ rest) = .ok (run, rest) := by
  rw [someDigits, bind_of_ok (digits_append hrun hrest), if_neg hne]
  rfl

/-- The first character of a number is a digit. -/
theorem exists_toDigits (n : Nat) :
    ∃ c tail, Nat.toDigits 10 n = c :: tail ∧ c ∈ decimalDigits := by
  refine toDigits_induction
    (P := fun _ digits => ∃ c tail, digits = c :: tail ∧ c ∈ decimalDigits) ?_ ?_ n
  · intro n hn
    have hdigits : ∀ d : Fin 10, d.val.digitChar ∈ decimalDigits := by decide
    exact ⟨n.digitChar, [], rfl, hdigits ⟨n, hn⟩⟩
  · rintro n d _ _ ⟨c, tail, hdigits, hc⟩
    exact ⟨c, tail ++ [d.digitChar], by rw [hdigits, List.cons_append], hc⟩

/-- The digits of a number end where something else begins. -/
theorem written_decimal (n : Nat) (hrest : Separated rest) :
    written .ended (Nat.toDigits 10 n ++ rest) = .ok (decimal n, rest) := by
  have hwhole := someDigits_append (isDigit_of_mem_toDigits n) Nat.toDigits_ne_nil hrest .ended
  have hlead : ¬ ((Nat.toDigits 10 n).head? = some '0' ∧ (Nat.toDigits 10 n).length > 1) := by
    rintro ⟨hzero, hlong⟩
    rw [head?_toDigits n hzero] at hlong
    exact Nat.lt_irrefl 1 hlong
  obtain ⟨c, tail, hdigits, hc⟩ := exists_toDigits n
  have hpeek : peek? (Nat.toDigits 10 n ++ rest) = .ok (some c, Nat.toDigits 10 n ++ rest) := by
    rw [hdigits]
    rfl
  have hminus : (some c == some '-') = false := by simp [of_mem_decimalDigits hc]
  obtain ⟨d, after, rfl, hd⟩ := hrest
  have hpoint : (some d == some '.') = false := by simp [of_mem_separators hd]
  have hmark : (some d == some 'e' || some d == some 'E') = false := by simp [of_mem_separators hd]
  rw [written, bind_of_ok hpeek, hminus]
  dsimp only
  rw [if_neg Bool.false_ne_true, bind_of_ok hwhole, if_neg hlead, bind_of_ok (peek?_cons d after),
    hpoint, if_neg Bool.false_ne_true, bind_of_ok (peek?_cons d after), hmark,
    if_neg Bool.false_ne_true]
  rfl

/-- **Numbers.** `number` reads a natural number of 64 bits from its decimal digits. -/
theorem number_decimal {n : Nat} (h : n < Written.bound) (hrest : Separated rest) :
    number (Nat.toDigits 10 n ++ rest) = .ok (.natural n, rest) := by
  rw [number, bind_of_ok (written_decimal n hrest), if_pos (inRange_decimal h), toJson_decimal h]
  rfl

/-! ### Strings -/

/-- `Numeral.hexDigit?` reads hexadecimal digits of either case. -/
theorem hexDigit?_of_hexDigit {value : Nat} {c : Char} (h : HexDigit value c) :
    Numeral.hexDigit? c = some value := by
  have hdigits : ∀ v : Fin 16, Numeral.hexDigit? v.val.digitChar = some v.val ∧
      Numeral.hexDigit? v.val.digitChar.toUpper = some v.val := by decide
  rcases h.2 with hc | hc
  · rw [hc]
    exact (hdigits ⟨value, h.1⟩).1
  · rw [hc]
    exact (hdigits ⟨value, h.1⟩).2

/-- Four hexadecimal digits are read as the code unit that they stand for. -/
theorem hexUnit_append {unit : Nat} (h : HexUnit unit text) (rest : List Char) :
    hexUnit (text ++ rest) = .ok (unit, rest) := by
  cases h with
  | mk h₁ h₂ h₃ h₄ =>
    simp only [List.cons_append, List.nil_append, hexUnit, hexDigit?_of_hexDigit h₁,
      hexDigit?_of_hexDigit h₂, hexDigit?_of_hexDigit h₃, hexDigit?_of_hexDigit h₄,
      Except.ok.injEq, Prod.mk.injEq, and_true]
    omega

/-- A character is no surrogate. -/
theorem not_surrogate (c : Char) :
    Utf16.isTrailing c.toNat = false ∧ Utf16.isLeading c.toNat = false := by
  have hvalid := c.valid
  simp only [Utf16.isTrailing, Utf16.isLeading, Bool.and_eq_false_iff, decide_eq_false_iff_not]
  simp only [UInt32.isValidChar, Nat.isValidChar] at hvalid
  have htoNat : c.toNat = c.val.toNat := rfl
  omega

/-- An escape of one code unit: a character is no surrogate, so no second unit is asked for. -/
theorem unicodeEscape_unit {c : Char} (h : HexUnit c.toNat text) (rest : List Char) :
    unicodeEscape (text ++ rest) = .ok (c, rest) := by
  obtain ⟨htrailing, hleading⟩ := not_surrogate c
  rw [unicodeEscape, bind_of_ok (hexUnit_append h rest), if_neg (by simp [htrailing]),
    if_neg (by simp [hleading]), Char.ofNat_toNat]
  rfl

theorem exactly_cons (c : Char) (rest : List Char) : exactly c (c :: rest) = .ok ((), rest) := by
  rw [exactly, bind_of_ok (next?_cons c rest)]
  dsimp only
  rw [if_pos rfl]
  rfl

/-- An escape of two code units: a leading surrogate asks for a trailing one, and the pair is
joined. -/
theorem unicodeEscape_pair {c : Char} {high low : Nat} {first second : List Char}
    (hhigh : high < 0x400) (hlow : low < 0x400) (hc : c.toNat = 0x10000 + high * 0x400 + low)
    (hfirst : HexUnit (0xD800 + high) first) (hsecond : HexUnit (0xDC00 + low) second)
    (rest : List Char) :
    unicodeEscape (first ++ '\\' :: 'u' :: (second ++ rest)) = .ok (c, rest) := by
  have hnot : ¬ Utf16.isTrailing (0xD800 + high) := by simp [Utf16.isTrailing]; omega
  have hleading : Utf16.isLeading (0xD800 + high) := by simp [Utf16.isLeading]; omega
  have htrailing : Utf16.isTrailing (0xDC00 + low) := by simp [Utf16.isTrailing]; omega
  have hjoin : Utf16.joinPair (0xD800 + high) (0xDC00 + low) = c := by
    rw [Utf16.joinPair, Nat.add_sub_cancel_left, Nat.add_sub_cancel_left, ← hc, Char.ofNat_toNat]
  rw [unicodeEscape, bind_of_ok (hexUnit_append hfirst _)]
  dsimp only
  rw [if_neg hnot, if_pos hleading, bind_of_ok (exactly_cons _ _), bind_of_ok (exactly_cons _ _),
    bind_of_ok (hexUnit_append hsecond rest), if_pos htrailing, hjoin]
  rfl

/-- Each letter of `Json.escapeLetters` stands for its character after a backslash. -/
theorem escaped_letter {c l : Char} (h : (l, c) ∈ Json.escapeLetters) (rest : List Char) :
    escaped (l :: rest) = .ok (c, rest) := by
  simp only [Json.escapeLetters, List.mem_cons, Prod.mk.injEq, List.not_mem_nil, or_false] at h
  rcases h with ⟨rfl, rfl⟩ | ⟨rfl, rfl⟩ | ⟨rfl, rfl⟩ | ⟨rfl, rfl⟩ | ⟨rfl, rfl⟩ | ⟨rfl, rfl⟩ |
    ⟨rfl, rfl⟩ | ⟨rfl, rfl⟩ <;> rfl

/-- Whatever its spelling, one character is read in one step. -/
theorem stringBody_step {c : Char} (h : CharSpelled c text) (chars rest : List Char) :
    stringBody.step chars (text ++ rest) = .ok (.inl (c :: chars), rest) := by
  -- The three spellings with a backslash differ only in what `escaped` reads behind it.
  have hescape {after : List Char} (hafter : escaped after = .ok (c, rest)) :
      stringBody.step chars ('\\' :: after) = .ok (.inl (c :: chars), rest) := by
    rw [stringBody.step, bind_of_ok (next?_cons '\\' after)]
    exact bind_of_ok hafter
  cases h with
  | plain hquote hslash hcontrol =>
    rw [stringBody.step, List.singleton_append, bind_of_ok (next?_cons c rest)]
    simp only [if_neg (Nat.not_lt.2 hcontrol)]
    rfl
  | letter h => exact hescape (escaped_letter h rest)
  | unit h => exact hescape (unicodeEscape_unit h rest)
  | pair hhigh hlow hc hfirst hsecond =>
    have hpair := unicodeEscape_pair hhigh hlow hc hfirst hsecond rest
    simp only [List.cons_append, List.append_assoc]
    exact hescape hpair

theorem length_pos_of_charSpelled {c : Char} (h : CharSpelled c text) : 0 < text.length := by
  cases h <;> simp

/-- The rounds of a string: the characters read so far are in `chars`, the latest first. -/
theorem rounds_unquoted {cs : List Char} (h : Unquoted cs text) (chars rest : List Char) :
    Rounds stringBody.step chars (text ++ rest) (String.ofList (chars.reverse ++ cs)) rest := by
  -- Induction on the spelling, one character for each round; the last round reads the quote.
  induction h generalizing chars with
  | nil =>
    rw [List.append_nil]
    exact .last rfl (by simp)
  | @cons c cs text after hc _ ih =>
    have hlength := length_pos_of_charSpelled hc
    rw [List.append_assoc]
    refine .round (stringBody_step hc chars _) (by simp only [List.length_append]; omega) ?_
    have hrounds := ih (c :: chars)
    rwa [List.reverse_cons, List.append_assoc] at hrounds

/-- **Strings.** `stringBody` reads a string up to its closing quote, whatever the spelling of its
characters. -/
theorem stringBody_of_unquoted {value : String} (h : Unquoted value.toList text)
    (rest : List Char) : stringBody (text ++ rest) = .ok (value, rest) := by
  have hrounds := (rounds_unquoted h [] rest).repeatUntil
  rwa [List.reverse_nil, List.nil_append, String.ofList_toList] at hrounds

end NativeFlow.Reader
