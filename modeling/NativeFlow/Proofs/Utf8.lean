import NativeFlow.Proofs.ByteOrder

namespace NativeFlow.Utf8

/-!
# Encoded texts are read back

The machine that reads bytes is between two characters before and after the bytes of one character,
and yields that character.

* `start_first`: what the first byte of a long character announces.
* `Decoder.step_next`, `Decoder.step_last`: a byte that goes on with a sequence, and the last one.
* `Decoder.foldl_step_encodeChar`: one character.
* `decodeLossy_encode`, `decode?_encode`: a text is read back from its bytes.
* `eq_of_mem_encodeChar`: a byte below 128 is a character of its own and no part of another one.
* `encode_ne_zero`: a text without a zero character has no zero byte.
-/

/-- A number below 256 fits a byte. -/
theorem toNat_ofNat {n : Nat} (h : n < 256) : (UInt8.ofNat n).toNat = n := by
  rw [UInt8.toNat_ofNat']
  exact Nat.mod_eq_of_lt h

/-! ### What the first byte announces -/

/-- The first byte of a long character announces the number of bytes that follow it, and allows the
next one. -/
theorem start_first {value : Nat} (hlong : 127 < value) (hvalue : value < 0x110000)
    (hsurrogate : value < 0xD800 ∨ 0xDFFF < value) :
    ∃ low high,
      start (first value) =
        .sequence ⟨value / 64 ^ trailing value, trailing value, low, high⟩ ∧
      low ≤ value / 64 ^ (trailing value - 1) % 64 + 128 ∧
      value / 64 ^ (trailing value - 1) % 64 + 128 ≤ high := by
  -- One case for each length. A single byte is no long character.
  rcases first_cases hvalue with ⟨-, hle, -⟩ | ⟨htrailing, -, hle, -, -⟩ |
    ⟨htrailing, hlt, hle, -, -⟩ | ⟨htrailing, hlt, -, -⟩
  · omega
  · have hfirst : first value = value / 64 + 192 := by simp [first, htrailing, mark]
    have hbits : (value / 64 + 192) % 32 = value / 64 := by omega
    refine ⟨0x80, 0xBF, ?_, ?_, ?_⟩
    · rw [hfirst, htrailing, start, if_neg (by omega), if_neg (by omega), if_pos (by omega), hbits,
        pow_one]
    · omega
    · omega
  · have hfirst : first value = value / 4096 + 224 := by simp [first, htrailing, mark]
    have hbits : (value / 4096 + 224) % 16 = value / 4096 := by omega
    refine ⟨if value / 4096 + 224 = 0xE0 then 0xA0 else 0x80,
      if value / 4096 + 224 = 0xED then 0x9F else 0xBF, ?_, ?_, ?_⟩
    · rw [hfirst, htrailing, start, if_neg (by omega), if_neg (by omega), if_neg (by omega),
        if_pos (by omega), hbits]
      rfl
    -- Overlong forms and surrogates are what the limits are for.
    · rw [htrailing]
      split <;> omega
    · rw [htrailing]
      split <;> omega
  · have hfirst : first value = value / 262144 + 240 := by simp [first, htrailing, mark]
    have hbits : (value / 262144 + 240) % 8 = value / 262144 := by omega
    refine ⟨if value / 262144 + 240 = 0xF0 then 0x90 else 0x80,
      if value / 262144 + 240 = 0xF4 then 0x8F else 0xBF, ?_, ?_, ?_⟩
    · rw [hfirst, htrailing, start, if_neg (by omega), if_neg (by omega), if_neg (by omega),
        if_neg (by omega), if_pos (by omega), hbits]
      rfl
    · rw [htrailing]
      split <;> omega
    · rw [htrailing]
      split <;> omega

/-! ### Reading a character -/

namespace Decoder

variable {output : List (Option Char)} {p : Pending} {byte : UInt8}

/-- A byte that announces a sequence. -/
theorem step_first (h : start byte.toNat = .sequence p) :
    step ⟨output, none⟩ byte = ⟨output, some p⟩ := by
  simp only [step, begin, h]

/-- A byte that goes on with a sequence adds six bits. -/
theorem step_next (hlow : p.low ≤ byte.toNat) (hhigh : byte.toNat ≤ p.high) (h : 1 < p.missing) :
    step ⟨output, some p⟩ byte =
      ⟨output, some { value := p.value * 64 + byte.toNat % 64, missing := p.missing - 1 }⟩ := by
  simp only [step, if_pos (And.intro hlow hhigh), if_neg (Nat.not_le.2 h)]

/-- The last byte of a sequence adds six bits and yields the character. -/
theorem step_last (hlow : p.low ≤ byte.toNat) (hhigh : byte.toNat ≤ p.high) (h : p.missing ≤ 1) :
    step ⟨output, some p⟩ byte =
      ⟨some (Char.ofNat (p.value * 64 + byte.toNat % 64)) :: output, none⟩ := by
  simp only [step, if_pos (And.intro hlow hhigh), if_pos h]

/-- All bytes of a number but the last: all bits but the last six have been read, and the last byte
may come next. The first byte limits the one behind it, no other byte limits the next. -/
theorem foldl_step_sequence {mark low high : Nat} (trailing : Nat) {value missing : Nat}
    (hmissing : 0 < missing) (hroom : value / 64 ^ (trailing + 1) + mark < 256)
    (hstart : start (value / 64 ^ (trailing + 1) + mark) =
      .sequence ⟨value / 64 ^ (trailing + 1), trailing + missing, low, high⟩)
    (hlow : low ≤ value / 64 ^ trailing % 64 + 128)
    (hhigh : value / 64 ^ trailing % 64 + 128 ≤ high) :
    ∃ p : Pending,
      (sequence mark trailing (value / 64)).foldl step ⟨output, none⟩ = ⟨output, some p⟩ ∧
      p.value = value / 64 ∧ p.missing = missing ∧
      p.low ≤ value % 64 + 128 ∧ value % 64 + 128 ≤ p.high := by
  -- On the number of bytes, from the last one back: the bytes in front of it spell a number that is
  -- six bits shorter, with one more byte missing.
  induction trailing generalizing value missing with
  | zero =>
    rw [Nat.zero_add, pow_one] at hroom hstart
    rw [← toNat_ofNat hroom, Nat.zero_add] at hstart
    rw [pow_zero, Nat.div_one] at hlow hhigh
    exact ⟨_, step_first hstart, rfl, rfl, hlow, hhigh⟩
  | succ trailing ih =>
    have hdiv (k : Nat) : value / 64 ^ (k + 1) = value / 64 / 64 ^ k := by
      rw [Nat.div_div_eq_div_mul, ← Nat.pow_succ']
    rw [hdiv] at hroom hstart hlow hhigh
    rw [Nat.add_assoc, Nat.add_comm 1] at hstart
    obtain ⟨p, hfold, hvalue, hcount, hleast, hmost⟩ :=
      ih (Nat.succ_pos missing) hroom hstart hlow hhigh
    have hbyte : (UInt8.ofNat (value / 64 % 64 + 128)).toNat = value / 64 % 64 + 128 :=
      toNat_ofNat (by omega)
    rw [← hbyte] at hleast hmost
    have hbits : p.value * 64 + (value / 64 % 64 + 128) % 64 = value / 64 := by omega
    have hlast : 0x80 ≤ value % 64 + 128 ∧ value % 64 + 128 ≤ 0xBF := by omega
    refine ⟨{ value := value / 64, missing }, ?_, rfl, rfl, hlast⟩
    rw [sequence, List.foldl_append, hfold, List.foldl_cons, List.foldl_nil,
      step_next hleast hmost (by omega), hbyte, hbits, hcount, Nat.succ_sub_one]

/-- **One character.** Its bytes yield it, whatever has been read before. -/
theorem foldl_step_encodeChar (c : Char) (output : List (Option Char)) :
    (String.utf8EncodeChar c).foldl step ⟨output, none⟩ = ⟨some c :: output, none⟩ := by
  have hvalue : c.val.toNat < 0x110000 := value_lt c
  have hsurrogate : c.val.toNat < 0xD800 ∨ 0xDFFF < c.val.toNat := c.valid.imp_right And.left
  have hchar : Char.ofNat c.val.toNat = c := Char.ofNat_toNat c
  rw [encodeChar_eq]
  generalize c.val.toNat = value at hvalue hsurrogate hchar
  have hcases := first_cases hvalue
  have hroom : first value < 256 := by omega
  -- A character of one byte is read at once; any other is pending until its last byte.
  cases htrailing : trailing value with
  | zero =>
    have hbyte : (UInt8.ofNat value).toNat = value := toNat_ofNat (by omega)
    have hstart : start value = .char c := by rw [start, if_pos (by omega), hchar]
    simp [sequence, mark, step, begin, hbyte, hstart]
  | succ rest =>
    obtain ⟨low, high, hstart, hlow, hhigh⟩ := start_first (by omega) hvalue hsurrogate
    rw [first, htrailing] at hstart hroom
    rw [htrailing, Nat.add_sub_cancel] at hlow hhigh
    obtain ⟨p, hfold, hbits, hcount, hleast, hmost⟩ :=
      foldl_step_sequence rest Nat.one_pos hroom hstart hlow hhigh
    have hbyte : (UInt8.ofNat (value % 64 + 128)).toNat = value % 64 + 128 := toNat_ofNat (by omega)
    rw [← hbyte] at hleast hmost
    have hall : p.value * 64 + (value % 64 + 128) % 64 = value := by omega
    rw [sequence, List.foldl_append, hfold, List.foldl_cons, List.foldl_nil,
      step_last hleast hmost (by omega), hbyte, hall, hchar]

end Decoder

/-! ### Texts -/

/-- The bytes of one text and then of another. -/
theorem encode_append (s t : String) : encode (s ++ t) = encode s ++ encode t := by
  simp [encode]

/-- **Many characters.** The output is kept in reverse. -/
theorem Decoder.foldl_step_encode (chars : List Char) (output : List (Option Char)) :
    (chars.flatMap String.utf8EncodeChar).foldl step ⟨output, none⟩ =
      ⟨(chars.map some).reverse ++ output, none⟩ := by
  induction chars generalizing output with
  | nil => rfl
  | cons c chars ih =>
    rw [List.flatMap_cons, List.foldl_append, foldl_step_encodeChar, ih]
    simp

/-- The bytes of a text are read in pieces that are its characters. -/
theorem pieces_encode (text : String) : pieces (encode text) = text.toList.map some := by
  rw [pieces, encode, Decoder.foldl_step_encode]
  simp [Decoder.finish]

/-- **A text is read back** from its bytes. -/
theorem decodeLossy_encode (text : String) : decodeLossy (encode text) = text := by
  rw [decodeLossy, pieces_encode, List.map_map]
  have hid : ((fun c? : Option Char => c?.getD '�') ∘ some) = id := rfl
  rw [hid, List.map_id, String.ofList_toList]

/-- The bytes of a text are well formed. -/
theorem decode?_encode (text : String) : decode? (encode text) = some text := by
  have hall : (text.toList.map some).all Option.isSome = true := by simp
  have hchars : (text.toList.map some).filterMap id = text.toList := by simp
  rw [decode?, pieces_encode, if_pos hall, hchars, String.ofList_toList]

/-! ### Bytes of one character -/

/-- The bytes of a number with a mark are high, since the first one has the mark. -/
theorem high_of_mem_sequence {mark trailing value : Nat}
    (hhigh : 128 ≤ value / 64 ^ trailing + mark) (hroom : value / 64 ^ trailing + mark < 256)
    {byte : UInt8} (h : byte ∈ sequence mark trailing value) : 128 ≤ byte.toNat := by
  induction trailing generalizing value with
  | zero =>
    rw [pow_zero, Nat.div_one] at hhigh hroom
    obtain rfl := List.mem_singleton.1 h
    rwa [toNat_ofNat hroom]
  | succ trailing ih =>
    rw [Nat.pow_succ', ← Nat.div_div_eq_div_mul] at hhigh hroom
    rcases List.mem_append.1 h with hfront | hlast
    · exact ih hhigh hroom hfront
    · obtain rfl := List.mem_singleton.1 hlast
      rw [toNat_ofNat (by omega)]
      omega

/-- **A low byte is a character of its own.** -/
theorem eq_of_mem_encodeChar {c d : Char} (hd : d.val.toNat < 128)
    (h : UInt8.ofNat d.val.toNat ∈ String.utf8EncodeChar c) : c = d := by
  have hbyte : (UInt8.ofNat d.val.toNat).toNat = d.val.toNat := toNat_ofNat (by omega)
  have hcases := first_cases (value_lt c)
  rw [encodeChar_eq] at h
  -- A low character is its own single byte; all bytes of any other one are high.
  by_cases hlow : c.val.toNat ≤ 127
  · have htrailing : trailing c.val.toNat = 0 := by omega
    have hroom : (UInt8.ofNat c.val.toNat).toNat = c.val.toNat := toNat_ofNat (by omega)
    rw [htrailing] at h
    have hsame := congrArg UInt8.toNat (List.mem_singleton.1 h)
    rw [hbyte, mark, Nat.add_zero, hroom] at hsame
    rw [← Char.ofNat_toNat c, ← Char.ofNat_toNat d]
    exact congrArg Char.ofNat hsame.symm
  · have hfirst : 128 ≤ first c.val.toNat ∧ first c.val.toNat < 256 := by omega
    have hhigh := high_of_mem_sequence hfirst.1 hfirst.2 h
    omega

/-- **A text without a zero character has no zero byte.** -/
theorem encode_ne_zero {text : String} (h : '\x00' ∉ text.toList) {byte : UInt8}
    (hmem : byte ∈ encode text) : byte ≠ 0 := by
  obtain ⟨c, hc, hbyte⟩ := List.mem_flatMap.1 hmem
  rintro rfl
  have hzero : c = '\x00' := eq_of_mem_encodeChar (by decide) hbyte
  exact h (hzero ▸ hc)

end NativeFlow.Utf8
