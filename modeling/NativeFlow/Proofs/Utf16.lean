import NativeFlow.Proofs.Memory
import NativeFlow.Proofs.Objects

namespace NativeFlow

/-!
# Strings from UTF-16

The machine that pairs code units is between two characters before and after the units of one
character, and yields that character. So the units of a text are read as the text. The first of them
are read as the characters that they hold in full, with U+FFFD for a surrogate pair that is cut in
two.

* `Utf16.units`, `Utf16.encode`, `Utf16.bytesOfUnits`: the code units of characters and texts, and
  their bytes.
* `Utf16.Decoder.foldl_step_units`: one character.
* `Utf16.Cut`: what the first units of a text hold.
* `Utf16.exists_cut`, `Utf16.Cut.decodeLossy`: any number of units holds something, and that is
  read.
* `Utf16.unitsOfBytes_bytesOfUnits`: code units are read back from their bytes.
* `Function.newString_reads`: the string that is made from code units in memory.
-/

namespace Utf16

/-! ### Code units -/

/-- The first unit of a surrogate pair, which holds the upper ten bits. -/
def leading (c : Char) : Nat := 0xD800 + (c.toNat - 0x10000) / 0x400

/-- The second unit of a surrogate pair, which holds the lower ten bits. -/
def trailing (c : Char) : Nat := 0xDC00 + (c.toNat - 0x10000) % 0x400

/-- The code units of a character: one, or a surrogate pair. -/
def units (c : Char) : List Nat :=
  if c.toNat < 0x10000 then [c.toNat] else [leading c, trailing c]

/-- The code units of a text. -/
def encode (text : String) : List Nat := text.toList.flatMap units

theorem toNat_lt (c : Char) : c.toNat < 0x110000 := Utf8.value_lt c

theorem units_of_short {c : Char} (h : c.toNat < 0x10000) : units c = [c.toNat] := if_pos h

theorem units_of_long {c : Char} (h : 0x10000 ≤ c.toNat) : units c = [leading c, trailing c] :=
  if_neg (Nat.not_lt.2 h)

/-- A leading surrogate lies in `0xD800 .. 0xDBFF`. -/
theorem isLeading_iff {unit : Nat} : isLeading unit = true ↔ 0xD800 ≤ unit ∧ unit < 0xDC00 := by
  simp [isLeading]

/-- A trailing surrogate lies in `0xDC00 .. 0xDFFF`. -/
theorem isTrailing_iff {unit : Nat} : isTrailing unit = true ↔ 0xDC00 ≤ unit ∧ unit < 0xE000 := by
  simp [isTrailing]

/-- `leading c` is a leading surrogate: the upper ten bits of a character fit. -/
theorem isLeading_leading (c : Char) : isLeading (leading c) = true := by
  have hlt := toNat_lt c
  rw [isLeading_iff, leading]
  omega

/-- `trailing c` is a trailing surrogate. -/
theorem isTrailing_trailing (c : Char) : isTrailing (trailing c) = true := by
  rw [isTrailing_iff, trailing]
  omega

/-- `joinPair` undoes the split of a character beyond the first plane. -/
theorem joinPair_leading_trailing {c : Char} (h : 0x10000 ≤ c.toNat) :
    joinPair (leading c) (trailing c) = c := by
  have hvalue : 0x10000 + (leading c - 0xD800) * 0x400 + (trailing c - 0xDC00) = c.toNat := by
    rw [leading, trailing]
    omega
  rw [joinPair, hvalue, Char.ofNat_toNat]

/-- Every code unit fits into two bytes. -/
theorem unit_lt {c : Char} {unit : Nat} (h : unit ∈ units c) : unit < 0x10000 := by
  by_cases hshort : c.toNat < 0x10000
  · rw [units_of_short hshort] at h
    rwa [List.mem_singleton.1 h]
  · rw [units_of_long (Nat.not_lt.1 hshort)] at h
    have hleading := isLeading_iff.1 (isLeading_leading c)
    have htrailing := isTrailing_iff.1 (isTrailing_trailing c)
    rcases List.mem_pair.1 h with h | h
    · omega
    · omega

/-! ### Reading a character -/

namespace Decoder

/-- A unit that opens a surrogate pair waits for its partner. -/
theorem step_leading {unit : Nat} (h : isLeading unit = true) (output : List Char) :
    step ⟨output, none⟩ unit = ⟨output, some unit⟩ := by
  simp only [step, begin, h, if_true]

/-- **One character.** Its units yield it, whatever has been read before. -/
theorem foldl_step_units (c : Char) (output : List Char) :
    (units c).foldl step ⟨output, none⟩ = ⟨c :: output, none⟩ := by
  by_cases hshort : c.toNat < 0x10000
  · -- A character is no surrogate itself, so its one unit is neither half of a pair.
    have hsurrogate : c.toNat < 0xD800 ∨ 0xDFFF < c.toNat := c.valid.imp_right And.left
    have hleading : ¬ isLeading c.toNat = true := by
      rw [isLeading_iff]
      omega
    have htrailing : ¬ isTrailing c.toNat = true := by
      rw [isTrailing_iff]
      omega
    rw [units_of_short hshort, List.foldl_cons, List.foldl_nil]
    simp only [step, begin, if_neg hleading, if_neg htrailing, Char.ofNat_toNat]
  · rw [units_of_long (Nat.not_lt.1 hshort), List.foldl_cons, List.foldl_cons, List.foldl_nil,
      step_leading (isLeading_leading c)]
    simp only [step, isTrailing_trailing, if_true, joinPair_leading_trailing (Nat.not_lt.1 hshort)]

/-- **Many characters** are read one by one: the decoder is between two characters after each of
them. -/
theorem foldl_step_encode (chars output : List Char) :
    (chars.flatMap units).foldl step ⟨output, none⟩ = ⟨chars.reverse ++ output, none⟩ := by
  induction chars generalizing output with
  | nil => rfl
  | cons c chars ih =>
    rw [List.flatMap_cons, List.foldl_append, foldl_step_units, ih]
    simp

end Decoder

/-! ### The first units of a text -/

/-- What the first units of a text hold: the characters that have all their units among them, and
U+FFFD if the last unit is one half of a pair. -/
inductive Cut (chars : List Char) (count : Nat) : List Char → Prop
  | between (front back : List Char) (h : chars = front ++ back)
      (hcount : (front.flatMap units).length = count) : Cut chars count front
  | inside (front back : List Char) (c : Char) (h : chars = front ++ c :: back)
      (hafter : (front.flatMap units).length < count)
      (hbefore : count < (front.flatMap units).length + (units c).length) :
      Cut chars count (front ++ ['�'])

/-- One character more in front: its units come before all others. -/
theorem Cut.cons {c : Char} {chars read : List Char} {count : Nat} (h : Cut chars count read) :
    Cut (c :: chars) ((units c).length + count) (c :: read) := by
  cases h with
  | between _ back h hcount =>
    refine .between (c :: read) back (by rw [h, List.cons_append]) ?_
    rw [List.flatMap_cons, List.length_append, hcount]
  | inside front back d h hafter hbefore =>
    refine .inside (c :: front) back d (by rw [h, List.cons_append]) ?_ ?_
    · rw [List.flatMap_cons, List.length_append]
      omega
    · rw [List.flatMap_cons, List.length_append]
      omega

/-- Any number of units holds something. -/
theorem exists_cut {chars : List Char} {count : Nat} (h : count ≤ (chars.flatMap units).length) :
    ∃ read, Cut chars count read := by
  induction chars generalizing count with
  | nil => exact ⟨[], .between [] [] rfl (Nat.le_zero.1 h).symm⟩
  | cons c chars ih =>
    rw [List.flatMap_cons, List.length_append] at h
    -- The cut is behind this character, or inside it, or in front of it.
    by_cases hc : (units c).length ≤ count
    · have hrest : count - (units c).length ≤ (chars.flatMap units).length := by omega
      obtain ⟨read, hread⟩ := ih hrest
      have hcut := hread.cons (c := c)
      rw [Nat.add_sub_cancel' hc] at hcut
      exact ⟨_, hcut⟩
    · by_cases hzero : count = 0
      · exact ⟨[], .between [] _ rfl hzero.symm⟩
      · refine ⟨_, .inside [] chars c rfl (Nat.pos_of_ne_zero hzero) ?_⟩
        rw [List.flatMap_nil, List.length_nil]
        omega

/-- **The first units of a text are read** as what they hold. -/
theorem Cut.decodeLossy {chars read : List Char} {count : Nat} (h : Cut chars count read) :
    Utf16.decodeLossy ((chars.flatMap units).take count) = String.ofList read := by
  cases h with
  | between _ back h hcount =>
    rw [h, List.flatMap_append, List.take_left' hcount, Utf16.decodeLossy,
      Decoder.foldl_step_encode]
    simp [Decoder.finish]
  | inside front back c h hafter hbefore =>
    -- Only a pair has room for a cut, and only behind its first unit.
    have hlong : 0x10000 ≤ c.toNat := by
      by_contra hshort
      rw [units_of_short (Nat.not_le.1 hshort), List.length_singleton] at hbefore
      omega
    rw [units_of_long hlong] at hbefore
    have hcount : count = (front.flatMap units).length + 1 := Nat.le_antisymm (by
      simpa using Nat.le_of_lt_succ hbefore) hafter
    have htake : (chars.flatMap units).take count = front.flatMap units ++ [leading c] := by
      rw [hcount, h, List.flatMap_append, List.flatMap_cons, units_of_long hlong,
        List.take_length_add_append]
      rfl
    rw [htake, Utf16.decodeLossy, List.foldl_append, Decoder.foldl_step_encode, List.foldl_cons,
      List.foldl_nil, Decoder.step_leading (isLeading_leading c)]
    simp [Decoder.finish]

/-- `decodeLossy` undoes `encode`. -/
theorem decodeLossy_encode (text : String) : Utf16.decodeLossy (encode text) = text := by
  rw [Utf16.decodeLossy, encode, Decoder.foldl_step_encode]
  simp [Decoder.finish]

/-! ### Bytes of units -/

/-- The bytes of code units, low byte first. -/
def bytesOfUnits (units : List Nat) : List UInt8 :=
  units.flatMap fun unit => [UInt8.ofNat unit, UInt8.ofNat (unit / 0x100)]

theorem length_bytesOfUnits (units : List Nat) :
    (bytesOfUnits units).length = 2 * units.length := by
  simp [bytesOfUnits, List.length_flatMap, Nat.mul_comm]

/-- The first units are the first bytes, two for each. -/
theorem take_bytesOfUnits (units : List Nat) (count : Nat) :
    (bytesOfUnits units).take (2 * count) = bytesOfUnits (units.take count) := by
  induction units generalizing count with
  | nil => simp [bytesOfUnits]
  | cons unit units ih =>
    cases count with
    | zero => simp [bytesOfUnits]
    | succ count =>
      have hrest := ih count
      simp only [bytesOfUnits] at hrest
      simp [bytesOfUnits, Nat.mul_succ, hrest]

/-- `unitsOfBytes.go` reads the units back, behind those in `done`. -/
theorem go_bytesOfUnits {units : List Nat} (h : ∀ unit ∈ units, unit < 0x10000)
    (done : List Nat) : unitsOfBytes.go done (bytesOfUnits units) = done.reverse ++ units := by
  induction units generalizing done with
  | nil => simp [bytesOfUnits, unitsOfBytes.go]
  | cons unit units ih =>
    have hlt : unit < 0x10000 := h unit List.mem_cons_self
    -- Low byte and high byte make up the unit again, for it fits into sixteen bits.
    have hunit : (UInt8.ofNat unit).toNat + 0x100 * (UInt8.ofNat (unit / 0x100)).toNat = unit := by
      rw [UInt8.toNat_ofNat', UInt8.toNat_ofNat']
      omega
    have hrest := ih (fun u hu => h u (List.mem_cons_of_mem _ hu)) (unit :: done)
    show unitsOfBytes.go (((UInt8.ofNat unit).toNat +
      0x100 * (UInt8.ofNat (unit / 0x100)).toNat) :: done) (bytesOfUnits units) = _
    rw [hunit, hrest]
    simp

/-- **Code units are read back** from their bytes. -/
theorem unitsOfBytes_bytesOfUnits {units : List Nat} (h : ∀ unit ∈ units, unit < 0x10000) :
    unitsOfBytes (bytesOfUnits units) = units :=
  go_bytesOfUnits h []

end Utf16

/-! ### Strings from memory -/

set_option maxRecDepth 2000 in
theorem Interface.exists_newString :
    ∃ f ∈ functions, f.name = "NewString" ∧ f.behaviour = .newString :=
  exists_of_row (i := 163) rfl

set_option maxRecDepth 2000 in
/-- The function named `NewString` makes strings from code units. -/
theorem Interface.behaviour_of_newString {f : Function} (hf : f ∈ functions)
    (hname : f.name = "NewString") : f.behaviour = .newString :=
  behaviour_of_row (i := 163) rfl hf hname

/-- The function that makes strings from code units returns a new value, with what is known about
the string. -/
theorem Function.call_newString {f : Function} (hf : f ∈ Interface.functions)
    (hname : f.name = "NewString") (c : Call) :
    ∃ reply value, f.call c = .ok reply ∧ reply.effect = c.newString ∧
      reply.value? = some value ∧ value.notes = c.newString.notes :=
  Function.call_result (Interface.behaviour_of_newString hf hname) (by decide) (by decide) c

namespace Call

variable {c : Call} {start count : Value} {more : List Value}

/-- The first units of a text that is in memory. -/
theorem unitsText?_of_holds (hargs : c.args = start :: count :: more) {text : String}
    (hlength : (Utf16.encode text).length ≤ maxUnits)
    (hholds : c.machine.memory.Holds start.handle (Utf16.bytesOfUnits (Utf16.encode text)))
    (hcount : count.handle.toNat ≤ (Utf16.encode text).length) :
    c.unitsText? = some (Utf16.decodeLossy ((Utf16.encode text).take count.handle.toNat)) := by
  have hread : c.machine.memory.read? (start.handle.toNat + 0) (2 * count.handle.toNat) =
      some (((Utf16.bytesOfUnits (Utf16.encode text)).drop 0).take (2 * count.handle.toNat)) := by
    refine Memory.read?_of_mapped hholds.mapped (fun _ _ hlt => hlt) ?_
    rw [Utf16.length_bytesOfUnits]
    omega
  rw [Nat.add_zero, List.drop_zero, Utf16.take_bytesOfUnits] at hread
  have hunits : ∀ unit ∈ (Utf16.encode text).take count.handle.toNat, unit < 0x10000 := by
    intro unit hmem
    obtain ⟨char, -, hunit⟩ := List.mem_flatMap.1 (List.mem_of_mem_take hmem)
    exact Utf16.unit_lt hunit
  simp only [unitsText?, hargs, if_pos (Nat.le_trans hcount hlength), hread, Option.map_some,
    Utf16.unitsOfBytes_bytesOfUnits hunits]

/-- Nothing is read where there are too many units, or not all of them can be read. -/
theorem unitsText?_eq_none (hargs : c.args = start :: count :: more)
    (h : maxUnits < count.handle.toNat ∨
      c.machine.memory.read? start.handle.toNat (2 * count.handle.toNat) = none) :
    c.unitsText? = none := by
  simp only [unitsText?, hargs]
  split
  case isTrue hle =>
    rcases h with hlt | hnone
    · omega
    · rw [hnone, Option.map_none]
  case isFalse => rfl

end Call

/-- **A string from code units.** Where the units of a text of at most 65536 units are in memory and
no other region starts inside them, any first part of them makes a string that is known to be what
they hold: the characters that have all their units among them, and U+FFFD for a pair that is cut in
two. All of them make the text itself. The call is covered. Where more units are asked for, or where
they cannot be read, the call is not covered and nothing is known about the string. -/
theorem Function.newString_reads {f : Function} (hf : f ∈ Interface.functions)
    (hname : f.name = "NewString") {c : Call} {start count : Value} {more : List Value}
    (hargs : c.args = start :: count :: more) :
    (∀ text : String, (Utf16.encode text).length ≤ 65536 →
      c.machine.memory.Holds start.handle (Utf16.bytesOfUnits (Utf16.encode text)) →
      count.handle.toNat ≤ (Utf16.encode text).length →
      ∃ reply value read, f.call c = .ok reply ∧ reply.effect.modeled = true ∧
        reply.value? = some value ∧ Utf16.Cut text.toList count.handle.toNat read ∧
        value.notes = [.string { source := .native, value := String.ofList read }] ∧
        (count.handle.toNat = (Utf16.encode text).length → String.ofList read = text)) ∧
    (65536 < count.handle.toNat ∨
        c.machine.memory.read? start.handle.toNat (2 * count.handle.toNat) = none →
      ∃ reply value, f.call c = .ok reply ∧ reply.effect.modeled = false ∧
        reply.value? = some value ∧ value.notes = []) := by
  obtain ⟨reply, value, hcall, heffect, hvalue, hnotes⟩ := Function.call_newString hf hname c
  constructor
  · intro text hlength hholds hcount
    -- What the units hold is settled by their number; what is read is that, by `Cut.decodeLossy`.
    obtain ⟨read, hcut⟩ := Utf16.exists_cut hcount
    have htext : Utf16.decodeLossy ((Utf16.encode text).take count.handle.toNat) =
        String.ofList read := hcut.decodeLossy
    have hmade : c.newString =
        c.returning [.string { source := .native, value := String.ofList read }] := by
      rw [Call.newString, Call.unitsText?_of_holds hargs hlength hholds hcount, htext]
      rfl
    rw [hmade] at heffect hnotes
    refine ⟨reply, value, read, hcall, by rw [heffect]; rfl, hvalue, hcut, hnotes, fun hall => ?_⟩
    rw [← htext, hall, List.take_length, Utf16.decodeLossy_encode]
  · intro hunread
    have hmade : c.newString = c.fallback := by
      rw [Call.newString, Call.unitsText?_eq_none hargs hunread]
      rfl
    rw [hmade] at heffect hnotes
    exact ⟨reply, value, hcall, by rw [heffect]; rfl, hvalue, hnotes⟩

namespace Call

/-- A machine that has the four units of a text of three characters in memory. -/
def smileMachine : Machine :=
  ({ pointerBits := 64 } : Machine).map 4096 (Utf16.bytesOfUnits (Utf16.encode "a😀b"))

/-- A call that makes a string from some of these units. -/
def newSmile (count : UInt64) : Call where
  machine := smileMachine
  catalog := {}
  natives := {}
  args := [⟨4096, 64, []⟩, ⟨count, 32, []⟩]

/-- Two units hold a character and half of a pair, four hold the text, and five are too many. -/
theorem newString_reads_smile :
    ∃ f ∈ Interface.functions, f.name = "NewString" ∧
      (∃ reply value, f.call (newSmile 2) = .ok reply ∧ reply.value? = some value ∧
        value.notes = [.string { source := .native, value := "a�" }]) ∧
      (∃ reply value, f.call (newSmile 4) = .ok reply ∧ reply.value? = some value ∧
        value.notes = [.string { source := .native, value := "a😀b" }]) ∧
      (∃ reply value, f.call (newSmile 5) = .ok reply ∧ reply.effect.modeled = false ∧
        reply.value? = some value ∧ value.notes = []) := by
  obtain ⟨f, hf, hname, -⟩ := Interface.exists_newString
  have hholds : smileMachine.memory.Holds 4096 (Utf16.bytesOfUnits (Utf16.encode "a😀b")) :=
    Memory.holds_map (by decide)
  refine ⟨f, hf, hname, ?_, ?_, ?_⟩
  · obtain ⟨reply, value, read, hcall, -, hvalue, hcut, hnotes, -⟩ :=
      (Function.newString_reads hf hname (c := newSmile 2) rfl).1 "a😀b" (by decide) hholds
        (by decide)
    have hread : String.ofList read = "a�" := hcut.decodeLossy.symm.trans (by decide)
    exact ⟨reply, value, hcall, hvalue, by rw [hnotes, hread]⟩
  · obtain ⟨reply, value, read, hcall, -, hvalue, -, hnotes, hall⟩ :=
      (Function.newString_reads hf hname (c := newSmile 4) rfl).1 "a😀b" (by decide) hholds
        (by decide)
    exact ⟨reply, value, hcall, hvalue, by rw [hnotes, hall (by decide)]⟩
  · exact (Function.newString_reads hf hname (c := newSmile 5) rfl).2 (.inr (by decide))

end Call

end NativeFlow
