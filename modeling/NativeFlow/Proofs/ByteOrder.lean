import Mathlib.Data.String.Basic
import NativeFlow.SortedMap
import NativeFlow.Text.Utf8

namespace NativeFlow

/-!
# Texts in byte order

Tables and sets of texts are kept in the order of the characters. This is also the order of the
bytes that the texts are encoded in.

* `Utf8.sequence`: the bytes of a number, six bits in each but the first.
* `Utf8.sequence_append_lt`: the bytes of a lesser number are lesser, if there are as many of them.
* `Utf8.encodeChar_append_lt`: so are the bytes of a lesser character in any case, since the first
  byte says how many there are.
* `Utf8.encode_lt_encode`: the order of texts.
* `SortedSet.toList_byteOrder`: the members of a set of texts are listed in byte order.
-/

namespace Utf8

/-! ### One character -/

/-- The bytes of a number: some bytes of six bits each after one with a mark and all other bits. -/
def sequence (mark : Nat) : Nat → Nat → List UInt8
  | 0, value => [UInt8.ofNat (value + mark)]
  | trailing + 1, value =>
    sequence mark trailing (value / 64) ++ [UInt8.ofNat (value % 64 + 128)]

/-- How many bytes follow the first one of a character. -/
def trailing (value : Nat) : Nat :=
  if value ≤ 127 then 0 else if value ≤ 2047 then 1 else if value ≤ 65535 then 2 else 3

/-- The mark in the first byte of a character, by the number of bytes that follow it. -/
def mark : Nat → Nat
  | 0 => 0
  | 1 => 192
  | 2 => 224
  | _ => 240

/-- The first byte of a character, as a number. -/
def first (value : Nat) : Nat := value / 64 ^ trailing value + mark (trailing value)

theorem ofNat_lt_ofNat {a b : Nat} (h : a < b) (hb : b < 256) : UInt8.ofNat a < UInt8.ofNat b := by
  rw [UInt8.lt_iff_toNat_lt, UInt8.toNat_ofNat', UInt8.toNat_ofNat']
  omega

/-- The first byte has the mark and the bits that the others leave. -/
theorem sequence_eq_cons (mark trailing value : Nat) :
    ∃ rest, sequence mark trailing value =
      UInt8.ofNat (value / 64 ^ trailing + mark) :: rest := by
  induction trailing generalizing value with
  | zero => exact ⟨[], by simp [sequence]⟩
  | succ trailing ih =>
    obtain ⟨rest, hrest⟩ := ih (value / 64)
    refine ⟨rest ++ [UInt8.ofNat (value % 64 + 128)], ?_⟩
    rw [sequence, hrest, Nat.div_div_eq_div_mul, ← Nat.pow_succ', List.cons_append]

/-- **The bytes of a lesser number are lesser,** if they are as many and the first one has room for
all other bits. -/
theorem sequence_append_lt {mark trailing value value' : Nat} (h : value < value')
    (hroom : value' / 64 ^ trailing + mark < 256) (rest rest' : List UInt8) :
    sequence mark trailing value ++ rest < sequence mark trailing value' ++ rest' := by
  -- Induction on the bytes of six bits: the last of them decides only if all others are equal.
  induction trailing generalizing value value' rest rest' with
  | zero =>
    have hfirst : UInt8.ofNat (value + mark) < UInt8.ofNat (value' + mark) := by
      refine ofNat_lt_ofNat (by omega) ?_
      simpa using hroom
    exact List.cons_lt_cons_iff.2 (.inl hfirst)
  | succ trailing ih =>
    rw [Nat.pow_succ', ← Nat.div_div_eq_div_mul] at hroom
    simp only [sequence, List.append_assoc]
    by_cases hbits : value / 64 < value' / 64
    · exact ih hbits hroom _ _
    · -- The numbers differ in the last six bits only.
      have hsame : value / 64 = value' / 64 := by omega
      have hlast : UInt8.ofNat (value % 64 + 128) < UInt8.ofNat (value' % 64 + 128) :=
        ofNat_lt_ofNat (by omega) (by omega)
      rw [hsame]
      exact List.append_left_lt (List.cons_lt_cons_iff.2 (.inl hlast))

/-- The number of a character is below `0x110000`. -/
theorem value_lt (c : Char) : c.val.toNat < 0x110000 := by
  rcases c.valid with hlow | hhigh
  · exact Nat.lt_trans hlow (by decide)
  · exact hhigh.2

/-- The encoding of a character, by the number of bytes. -/
theorem encodeChar_eq (c : Char) :
    String.utf8EncodeChar c =
      sequence (mark (trailing c.val.toNat)) (trailing c.val.toNat) c.val.toNat := by
  have hvalue : c.val.toNat < 0x110000 := value_lt c
  unfold String.utf8EncodeChar trailing
  generalize c.val.toNat = value at hvalue
  dsimp only
  -- The first byte has room for all bits that are left, so no remainder is taken there.
  split
  case isTrue => rfl
  case isFalse =>
    split
    case isTrue hshort =>
      have hbits : value / 64 % 32 = value / 64 := by omega
      rw [hbits]
      rfl
    case isFalse =>
      split
      case isTrue =>
        have hbits : value / 4096 % 16 = value / 64 / 64 := by omega
        rw [hbits]
        rfl
      case isFalse =>
        have hbits : value / 262144 % 8 = value / 64 / 64 / 64 := by omega
        have hmiddle : value / 4096 = value / 64 / 64 := by omega
        rw [hbits, hmiddle]
        rfl

/-- The first byte says how many others follow, for the marks leave room for all other bits. -/
theorem first_cases {value : Nat} (hvalue : value < 0x110000) :
    (trailing value = 0 ∧ value ≤ 127 ∧ first value = value) ∨
    (trailing value = 1 ∧ 127 < value ∧ value ≤ 2047 ∧ 192 ≤ first value ∧ first value < 224) ∨
    (trailing value = 2 ∧ 2047 < value ∧ value ≤ 65535 ∧ 224 ≤ first value ∧ first value < 240) ∨
    (trailing value = 3 ∧ 65535 < value ∧ 240 ≤ first value ∧ first value < 256) := by
  by_cases hone : value ≤ 127
  · have htrailing : trailing value = 0 := if_pos hone
    have hfirst : first value = value := by simp [first, htrailing, mark]
    exact .inl ⟨htrailing, hone, hfirst⟩
  by_cases htwo : value ≤ 2047
  · have htrailing : trailing value = 1 := by simp [trailing, hone, htwo]
    have hfirst : first value = value / 64 + 192 := by simp [first, htrailing, mark]
    omega
  by_cases hthree : value ≤ 65535
  · have htrailing : trailing value = 2 := by simp [trailing, hone, htwo, hthree]
    have hfirst : first value = value / 4096 + 224 := by simp [first, htrailing, mark]
    omega
  · have htrailing : trailing value = 3 := by simp [trailing, hone, htwo, hthree]
    have hfirst : first value = value / 262144 + 240 := by simp [first, htrailing, mark]
    omega

/-- **The bytes of a lesser character are lesser,** whatever comes after them. -/
theorem encodeChar_append_lt {c d : Char} (h : c < d) (rest rest' : List UInt8) :
    String.utf8EncodeChar c ++ rest < String.utf8EncodeChar d ++ rest' := by
  have hlt : c.val.toNat < d.val.toNat := h
  have hvalue' : d.val.toNat < 0x110000 := value_lt d
  rw [encodeChar_eq, encodeChar_eq]
  generalize c.val.toNat = value at hlt
  generalize d.val.toNat = value' at hlt hvalue'
  have hcases := first_cases (Nat.lt_trans hlt hvalue')
  have hcases' := first_cases hvalue'
  have hroom : first value' < 256 := by omega
  by_cases htrailing : trailing value = trailing value'
  · rw [htrailing]
    exact sequence_append_lt hlt hroom rest rest'
  · -- The greater character has more bytes, so its first byte is greater.
    have hfirst : first value < first value' := by omega
    obtain ⟨tail, hbytes⟩ := sequence_eq_cons (mark (trailing value)) (trailing value) value
    obtain ⟨tail', hbytes'⟩ := sequence_eq_cons (mark (trailing value')) (trailing value') value'
    rw [hbytes, hbytes']
    exact List.cons_lt_cons_iff.2 (.inl (ofNat_lt_ofNat hfirst hroom))

/-! ### Texts -/

/-- Lists of characters are in the order of their bytes: the first character that differs decides.
-/
theorem flatMap_lt_flatMap {cs ds : List Char} (h : cs < ds) :
    cs.flatMap String.utf8EncodeChar < ds.flatMap String.utf8EncodeChar := by
  -- The order of lists: one ends, or the first characters differ, or the rest decides.
  induction h with
  | @nil d ds =>
    obtain ⟨tail, hbytes⟩ := sequence_eq_cons (mark (trailing d.val.toNat)) (trailing d.val.toNat)
      d.val.toNat
    rw [List.flatMap_cons, encodeChar_eq, hbytes]
    exact List.nil_lt_cons _ _
  | rel hchar => exact encodeChar_append_lt hchar _ _
  | cons _ ih => exact List.append_left_lt ih

/-- **The order of texts is the order of their bytes.** -/
theorem encode_lt_encode {s t : String} (h : compare s t = .lt) : encode s < encode t :=
  flatMap_lt_flatMap (String.lt_iff_toList_lt.1 (compare_lt_iff_lt.1 h))

end Utf8

/-- The members of a set of texts are listed in byte order. -/
theorem SortedSet.toList_byteOrder (s : SortedSet String) :
    s.toList.Pairwise fun a b => Utf8.encode a < Utf8.encode b :=
  List.pairwise_map.2 (s.members.sorted.imp Utf8.encode_lt_encode)

end NativeFlow
