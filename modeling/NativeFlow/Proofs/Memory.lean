import Mathlib.Algebra.Ring.Nat
import Mathlib.Data.List.TakeWhile
import Mathlib.Tactic.MkIffOfInductiveProp
import NativeFlow.Memory
import NativeFlow.Proofs.Utf8

namespace NativeFlow

/-!
# Mapped bytes, words and texts are read back

An address is looked for in one region only, the last of those that start at or below it. So bytes
that are mapped are found as far as no other region starts inside them.

* `Memory.Clear`, `Memory.regionBelow?_eq`: no region starts between two addresses, so they are
  looked for in the same region.
* `Memory.read?_of_mapped`, `Memory.byte?_of_mapped`: mapped bytes are read back.
* `Memory.Holds`: bytes are mapped at an address, and no other region starts inside them.
  `Memory.holds_map` says that mapping them brings this about.
* `Memory.readUntilZero?_eq`, `Memory.readUntilZero?_eq_none`: bytes up to a zero byte.
* `Memory.Holds.readText?`: a text is read back, if it is short enough and has no zero character.
* `Memory.readText?_of_mapped`: what is read from any character of a text on.
* `Machine.wordOfBytes_take`: a word is read back from its low bytes, modulo their range.
* `Machine.readPointer?_of_mapped`: so are the words of an array.
* `Machine.readBack`: words and texts, right after they have been mapped.
-/

/-! ### Regions -/

/-- What is found under a key is an entry of the list. -/
theorem Assoc.mem_of_find? {κ α : Type} [Ord κ] [Std.LawfulEqOrd κ] {key : κ} {value : α}
    {entries : List (κ × α)} (h : find? key entries = some value) : (key, value) ∈ entries := by
  induction entries with
  | nil => cases h
  | cons entry rest ih =>
    obtain ⟨k, v⟩ := entry
    unfold find? at h
    split at h
    case isTrue heq =>
      cases h
      rw [Std.compare_eq_iff_eq.1 heq]
      exact List.mem_cons_self
    case isFalse => exact List.mem_cons_of_mem _ (ih h)

namespace Memory

variable {m : Memory} {address : UInt64} {bytes : List UInt8}

/-- No region of `m` starts behind `address` up to `target`. -/
def Clear (m : Memory) (address : UInt64) (target : Nat) : Prop :=
  ∀ region ∈ m.regions.entries, address < region.1 → target < region.1.toNat

instance (m : Memory) (address : UInt64) (target : Nat) : Decidable (m.Clear address target) :=
  inferInstanceAs (Decidable (∀ region ∈ _, _ → _))

/-- **The region of an address** is one that starts at or below it, if no other starts between the
two. -/
theorem regionBelow?_eq {bytes : Array UInt8} {target : Nat}
    (hmem : (address, bytes) ∈ m.regions.entries) (hle : address.toNat ≤ target)
    (hclear : m.Clear address target) : m.regionBelow? target = some (address, bytes) := by
  -- The regions in front of it start below the address, and the next one starts behind `target`.
  obtain ⟨before, after, hentries⟩ := List.append_of_mem hmem
  have hsorted := m.regions.sorted
  rw [Assoc.Sorted, hentries, List.pairwise_append, List.pairwise_cons] at hsorted
  obtain ⟨-, ⟨hafter, -⟩, hbefore⟩ := hsorted
  have hfront : ∀ region ∈ before, decide (region.1.toNat ≤ target) = true := by
    intro region hfront
    have hlt : region.1 < address :=
      Std.compare_eq_lt.1 (hbefore region hfront _ List.mem_cons_self)
    exact decide_eq_true (Nat.le_trans (Nat.le_of_lt hlt) hle)
  have hback : after.takeWhile (fun region => region.1.toNat ≤ target) = [] := by
    cases after with
    | nil => rfl
    | cons region rest =>
      have hgt : address < region.1 := Std.compare_eq_lt.1 (hafter region List.mem_cons_self)
      have hbeyond : target < region.1.toNat := hclear region (by simp [hentries]) hgt
      exact List.takeWhile_cons_of_neg (by simpa using hbeyond)
  rw [regionBelow?, hentries, List.takeWhile_append_of_pos hfront,
    List.takeWhile_cons_of_pos (by simpa using hle), hback, List.getLast?_append]
  rfl

/-- **Some of the bytes** that are mapped at an address are read back, if no other region starts
between the address and the first of them. -/
theorem read?_of_mapped (hmapped : m.regions.find? address = some bytes.toArray)
    {offset length : Nat} (hclear : m.Clear address (address.toNat + offset))
    (hlength : offset + length ≤ bytes.length) :
    m.read? (address.toNat + offset) length = some ((bytes.drop offset).take length) := by
  have hregion := regionBelow?_eq (Assoc.mem_of_find? hmapped) (Nat.le_add_right _ offset) hclear
  simp only [read?, hregion, Nat.add_sub_cancel_left, List.size_toArray, if_pos hlength]
  simp [List.extract_eq_take_drop]

/-- A single byte of what is mapped at an address, under the same condition; none where the bytes
end. -/
theorem byte?_of_mapped (hmapped : m.regions.find? address = some bytes.toArray) {offset : Nat}
    (hclear : m.Clear address (address.toNat + offset)) :
    m.byte? (address.toNat + offset) = bytes[offset]? := by
  have hregion := regionBelow?_eq (Assoc.mem_of_find? hmapped) (Nat.le_add_right _ offset) hclear
  simp only [byte?, hregion, Nat.add_sub_cancel_left]
  simp

theorem find?_map (m : Memory) (address : UInt64) (bytes : List UInt8) :
    (m.map address bytes).regions.find? address = some bytes.toArray := by
  rw [map, SortedMap.find?_insert, if_pos rfl]

/-- Mapping bytes at an address starts no region behind it. -/
theorem mem_of_mem_map {region : UInt64 × Array UInt8}
    (hmem : region ∈ (m.map address bytes).regions.entries) (hlt : address < region.1) :
    region ∈ m.regions.entries := by
  rcases Assoc.mem_insert_fst hmem with rfl | hold
  · exact absurd hlt (UInt64.lt_irrefl address)
  · exact hold

/-- Mapping bytes at an address keeps what is behind it clear. -/
theorem Clear.map {target : Nat} (h : m.Clear address target) (bytes : List UInt8) :
    (m.map address bytes).Clear address target :=
  fun region hmem hlt => h region (mem_of_mem_map hmem hlt) hlt

/-- What is clear up to a target is clear up to a nearer one. -/
theorem Clear.mono {target target' : Nat} (h : m.Clear address target) (hle : target' ≤ target) :
    m.Clear address target' :=
  fun region hmem hlt => Nat.lt_of_le_of_lt hle (h region hmem hlt)

/-- Bytes are mapped at an address, and no other region starts inside them. -/
@[mk_iff]
structure Holds (m : Memory) (address : UInt64) (bytes : List UInt8) : Prop where
  mapped : m.regions.find? address = some bytes.toArray
  apart : ∀ region ∈ m.regions.entries, address < region.1 →
    address.toNat + bytes.length ≤ region.1.toNat

instance (m : Memory) (address : UInt64) (bytes : List UInt8) : Decidable (m.Holds address bytes) :=
  decidable_of_iff' _ (holds_iff m address bytes)

/-- Bytes are held once they are mapped, if no region starts inside them. -/
theorem holds_map (h : ∀ region ∈ m.regions.entries, address < region.1 →
    address.toNat + bytes.length ≤ region.1.toNat) : (m.map address bytes).Holds address bytes where
  mapped := find?_map m address bytes
  apart region hmem hlt := h region (mem_of_mem_map hmem hlt) hlt

/-- Bytes that are held are clear up to the last of them. -/
theorem Holds.clear (h : m.Holds address bytes) {offset : Nat} (hoffset : offset < bytes.length) :
    m.Clear address (address.toNat + offset) := by
  intro region hmem hlt
  have hapart := h.apart region hmem hlt
  omega

/-- Where there is no byte, nothing is read. -/
theorem read?_eq_none {target length : Nat} (h : m.byte? target = none) (hlength : 0 < length) :
    m.read? target length = none := by
  unfold Memory.byte? at h
  unfold Memory.read?
  split
  case h_1 => rfl
  case h_2 start region hregion =>
    rw [hregion] at h
    have hend : region.size ≤ target - start.toNat := Array.getElem?_eq_none_iff.1 h
    exact if_neg (by omega)

/-! ### Texts -/

/-- The bytes up to a zero byte are read one after the other. -/
theorem readUntilZero?_eq {target count : Nat} {done : List UInt8}
    (hbytes : ∀ i ≤ bytes.length, m.byte? (target + i) = (bytes ++ [0])[i]?)
    (hzero : ∀ byte ∈ bytes, byte ≠ 0) (hcount : bytes.length < count)
    (hbound : target + bytes.length < addressBound) :
    m.readUntilZero? target count done = some (done.reverse ++ bytes) := by
  -- Induction on the bytes in front of the zero byte; `done` has those that have been read.
  induction bytes generalizing target count done with
  | nil =>
    obtain ⟨count, rfl⟩ := Nat.exists_eq_succ_of_ne_zero (Nat.ne_zero_of_lt hcount)
    have hbyte : m.byte? target = some 0 := hbytes 0 (Nat.le_refl 0)
    simp only [readUntilZero?, if_pos (show target < addressBound from hbound), hbyte,
      List.append_nil]
  | cons byte rest ih =>
    obtain ⟨count, rfl⟩ := Nat.exists_eq_succ_of_ne_zero (Nat.ne_zero_of_lt hcount)
    have hbyte : m.byte? target = some byte := hbytes 0 (Nat.zero_le _)
    have hne : byte ≠ 0 := hzero byte List.mem_cons_self
    rw [List.length_cons] at hcount hbound
    have hrest : m.readUntilZero? (target + 1) count (byte :: done) =
        some ((byte :: done).reverse ++ rest) := by
      refine ih (fun i hi => ?_) (fun b hmem => hzero b (List.mem_cons_of_mem _ hmem)) (by omega)
        (by omega)
      rw [Nat.add_assoc, Nat.add_comm 1]
      exact hbytes (i + 1) (Nat.succ_le_succ hi)
    simp only [readUntilZero?, if_pos (show target < addressBound by omega), hbyte, hrest]
    simp

/-- Nothing is read where the next bytes are too many without a zero byte. -/
theorem readUntilZero?_eq_none {target count : Nat} {done : List UInt8}
    (h : ∀ i < count, m.byte? (target + i) ≠ some 0) :
    m.readUntilZero? target count done = none := by
  -- Induction on the number of bytes that may still be read.
  induction count generalizing target done with
  | zero => rfl
  | succ count ih =>
    have hrest (done : List UInt8) : m.readUntilZero? (target + 1) count done = none := by
      apply ih
      intro i hi
      rw [Nat.add_assoc, Nat.add_comm 1]
      exact h (i + 1) (Nat.succ_lt_succ hi)
    have hfirst : m.byte? target ≠ some 0 := h 0 (Nat.succ_pos count)
    unfold readUntilZero?
    split
    case isFalse => rfl
    case isTrue =>
      split
      case h_1 => rfl
      case h_2 hzero => exact absurd hzero hfirst
      case h_3 => exact hrest _

/-- The text in front of the first zero character, or all of it. -/
def upToZero (text : String) : String := String.ofList (text.toList.takeWhile (· ≠ '\x00'))

/-- There is no zero character in front of the first one. -/
theorem not_mem_upToZero (text : String) : '\x00' ∉ (upToZero text).toList := by
  intro hmem
  rw [upToZero, String.toList_ofList] at hmem
  simpa using List.mem_takeWhile_imp hmem

/-- A text without a zero character is read to its end. -/
theorem upToZero_eq {text : String} (h : '\x00' ∉ text.toList) : upToZero text = text := by
  have hall : text.toList.takeWhile (· ≠ '\x00') = text.toList := by
    refine List.takeWhile_eq_self_iff.2 fun c hc => decide_eq_true ?_
    rintro rfl
    exact h hc
  rw [upToZero, hall, String.ofList_toList]

/-- A zero byte follows the text in front of the first zero character: that of the character, or the
one behind the whole text. -/
theorem encode_upToZero (text : String) :
    ∃ tail, Utf8.encode text ++ [0] = Utf8.encode (upToZero text) ++ 0 :: tail := by
  have hsplit := List.takeWhile_append_dropWhile (p := (· ≠ '\x00')) (l := text.toList)
  simp only [Utf8.encode, upToZero, String.toList_ofList]
  -- Either there is no zero character and the byte behind the text is the zero, or one follows.
  cases hrest : text.toList.dropWhile (· ≠ '\x00') with
  | nil =>
    rw [hrest, List.append_nil] at hsplit
    exact ⟨[], by rw [hsplit]⟩
  | cons c rest =>
    have hzero : c = '\x00' := by
      have hhead := List.head?_dropWhile_not (· ≠ '\x00') text.toList
      rw [hrest] at hhead
      simpa using hhead
    refine ⟨rest.flatMap String.utf8EncodeChar ++ [0], ?_⟩
    conv_lhs => rw [← hsplit, hrest, hzero]
    rw [List.flatMap_append, List.flatMap_cons, List.append_assoc, List.append_assoc]
    rfl

/-- **What is read from a character of a text on** is the text from there up to its first zero
character, or nothing at all if that is too long. -/
theorem readText?_of_mapped {front back : String}
    (hmapped : m.regions.find? address = some (Utf8.encode (front ++ back) ++ [0]).toArray)
    (hclear : m.Clear address (address.toNat + (Utf8.encode (front ++ back)).length))
    (hbound : address.toNat + (Utf8.encode (front ++ back)).length < addressBound) :
    m.readText? (UInt64.ofNat (address.toNat + (Utf8.encode front).length)) =
      if (Utf8.encode (upToZero back)).length ≤ maxTextLength then some (upToZero back)
      else none := by
  rw [Utf8.encode_append] at hmapped
  rw [Utf8.encode_append, List.length_append] at hclear hbound
  obtain ⟨tail, htail⟩ := encode_upToZero back
  have hlengths : (Utf8.encode (upToZero back)).length ≤ (Utf8.encode back).length := by
    have hlength := congrArg List.length htail
    simp only [List.length_append, List.length_cons, List.length_nil] at hlength
    omega
  have hbytes : ∀ i ≤ (Utf8.encode (upToZero back)).length,
      m.byte? (address.toNat + (Utf8.encode front).length + i) =
        (Utf8.encode (upToZero back) ++ [0])[i]? := by
    intro i hi
    -- Behind `front` the region goes on with `back`, whose bytes `htail` cuts at the first zero.
    rw [Nat.add_assoc, byte?_of_mapped hmapped (hclear.mono (by omega)), List.append_assoc,
      List.getElem?_append_right (Nat.le_add_right _ i), Nat.add_sub_cancel_left, htail,
      ← List.singleton_append, ← List.append_assoc]
    exact List.getElem?_append_left (by simpa using Nat.lt_succ_of_le hi)
  have hnonzero : ∀ byte ∈ Utf8.encode (upToZero back), byte ≠ 0 :=
    fun _ => Utf8.encode_ne_zero (not_mem_upToZero back)
  have htarget : (UInt64.ofNat (address.toNat + (Utf8.encode front).length)).toNat =
      address.toNat + (Utf8.encode front).length :=
    UInt64.toNat_ofNat_of_lt (Nat.lt_of_le_of_lt (by omega) hbound)
  rw [Memory.readText?, htarget]
  split
  case isTrue hshort =>
    rw [readUntilZero?_eq hbytes hnonzero (Nat.lt_succ_of_le hshort) (by omega), List.reverse_nil,
      List.nil_append, Option.map_some, Utf8.decodeLossy_encode]
  case isFalse hlong =>
    -- All bytes that are looked at belong to the text, and none of those is zero.
    have hnone : ∀ i < maxTextLength + 1,
        m.byte? (address.toNat + (Utf8.encode front).length + i) ≠ some 0 := by
      intro i hi hzero
      rw [hbytes i (by omega), List.getElem?_append_left (by omega)] at hzero
      exact hnonzero 0 (List.mem_of_getElem? hzero) rfl
    rw [readUntilZero?_eq_none hnone]
    rfl

/-- **A text is read back,** if it is short enough and has no zero character. -/
theorem Holds.readText? {text : String} (h : m.Holds address (Utf8.encode text ++ [0]))
    (hzero : '\x00' ∉ text.toList) (hlength : (Utf8.encode text).length ≤ maxTextLength)
    (hbound : address.toNat + (Utf8.encode text).length < addressBound) :
    m.readText? address = some text := by
  have hclear : m.Clear address (address.toNat + (Utf8.encode text).length) := h.clear (by simp)
  have htext : text = "" ++ text := String.empty_append.symm
  have hmapped := h.mapped
  rw [htext] at hmapped hclear hbound
  have hread := readText?_of_mapped hmapped hclear hbound
  rw [upToZero_eq hzero, if_pos hlength] at hread
  simpa [Utf8.encode] using hread

end Memory

/-! ### Words -/

namespace Machine

/-- The number that is spelled by the low bytes of a number is its remainder. -/
theorem foldr_digits (width number : Nat) :
    ((List.range width).map fun i => UInt8.ofNat (number / Nat.pow 256 i)).foldr
      (fun byte rest => byte.toNat + 256 * rest) 0 = number % 2 ^ (8 * width) := by
  -- The bytes behind the first one are those of the number without its lowest byte.
  induction width generalizing number with
  | zero => simp [Nat.mod_one]
  | succ width ih =>
    have hfirst : (UInt8.ofNat (number / Nat.pow 256 0)).toNat = number % 256 := by
      rw [UInt8.toNat_ofNat']
      exact congrArg (· % 256) (Nat.div_one number)
    have hrest : ((fun i => UInt8.ofNat (number / Nat.pow 256 i)) ∘ Nat.succ) =
        fun i => UInt8.ofNat (number / 256 / Nat.pow 256 i) := by
      funext i
      rw [Nat.div_div_eq_div_mul, Nat.mul_comm]
      rfl
    have hpow : 2 ^ (8 * (width + 1)) = 256 * 2 ^ (8 * width) := by
      rw [Nat.mul_succ, Nat.pow_add, Nat.mul_comm]
    rw [List.range_succ_eq_map, List.map_cons, List.map_map, List.foldr_cons, hfirst, hrest, ih,
      hpow, Nat.mod_mul]

/-- **A word is read back from its low bytes,** modulo their range. -/
theorem wordOfBytes_take {width : Nat} (h : width ≤ 8) (word : UInt64) :
    wordOfBytes ((bytesOfWord word).take width) =
      UInt64.ofNat (word.toNat % 2 ^ (8 * width)) := by
  rw [wordOfBytes, bytesOfWord, ← List.map_take, List.take_range, Nat.min_eq_left h, foldr_digits]

variable {m : Machine} {address : UInt64} {words : List UInt64}

/-- The bytes of words, each cut to the width of a pointer. -/
def bytesOfWords (m : Machine) (words : List UInt64) : List UInt8 :=
  words.flatMap fun word => (bytesOfWord word).take m.pointerBytes

/-- Words are held once they are mapped, if no region starts inside them. -/
theorem holds_mapWords (h : ∀ region ∈ m.memory.regions.entries, address < region.1 →
    address.toNat + (m.bytesOfWords words).length ≤ region.1.toNat) :
    (m.mapWords address words).memory.Holds address (m.bytesOfWords words) :=
  Memory.holds_map h

/-- A word has eight bytes, of which the low ones are kept. -/
theorem length_take_bytesOfWord {width : Nat} (h : width ≤ 8) (word : UInt64) :
    ((bytesOfWord word).take width).length = width := by
  simpa [bytesOfWord] using h

/-- An array of words takes up the width of a pointer for each of them. -/
theorem length_bytesOfWords (h : m.pointerBytes ≤ 8) (words : List UInt64) :
    (m.bytesOfWords words).length = words.length * m.pointerBytes := by
  induction words with
  | nil => simp [bytesOfWords]
  | cons word words ih =>
    rw [bytesOfWords] at ih ⊢
    rw [List.flatMap_cons, List.length_append, length_take_bytesOfWord h, ih, List.length_cons,
      Nat.succ_mul, Nat.add_comm]

/-- The bytes of one of the words. -/
theorem take_drop_bytesOfWords (h : m.pointerBytes ≤ 8) {index : Nat} {word : UInt64}
    (hword : words[index]? = some word) :
    ((m.bytesOfWords words).drop (index * m.pointerBytes)).take m.pointerBytes =
      (bytesOfWord word).take m.pointerBytes := by
  induction words generalizing index with
  | nil => cases hword
  | cons first words ih =>
    have hlength := length_take_bytesOfWord h first
    rw [bytesOfWords, List.flatMap_cons]
    -- The first word is at the front; any other one behind the bytes of the first.
    cases index with
    | zero =>
      cases hword
      rw [Nat.zero_mul, List.drop_zero, List.take_left' hlength]
    | succ index =>
      rw [Nat.succ_mul, Nat.add_comm, ← List.drop_drop, List.drop_left' hlength]
      exact ih hword

/-- **A word of an array is read back,** modulo the range of a pointer. -/
theorem readPointer?_of_mapped
    (hmapped : m.memory.regions.find? address = some (m.bytesOfWords words).toArray)
    (hwidth : m.pointerBytes ≤ 8) {index : Nat} {word : UInt64} (hword : words[index]? = some word)
    (hclear : m.memory.Clear address (address.toNat + index * m.pointerBytes))
    (hbound : address.toNat + index * m.pointerBytes < addressBound) :
    m.readPointer? (UInt64.ofNat (address.toNat + index * m.pointerBytes)) =
      some (UInt64.ofNat (word.toNat % 2 ^ (8 * m.pointerBytes))) := by
  have hindex : index < words.length := (List.getElem?_eq_some_iff.1 hword).1
  have hend : (index + 1) * m.pointerBytes ≤ words.length * m.pointerBytes :=
    Nat.mul_le_mul_right _ hindex
  rw [Nat.succ_mul] at hend
  have hlength := length_bytesOfWords hwidth words
  have hread : m.memory.read? (address.toNat + index * m.pointerBytes) m.pointerBytes =
      some ((bytesOfWord word).take m.pointerBytes) := by
    rw [Memory.read?_of_mapped hmapped hclear (by omega), take_drop_bytesOfWords hwidth hword]
  have htarget : (UInt64.ofNat (address.toNat + index * m.pointerBytes)).toNat =
      address.toNat + index * m.pointerBytes := UInt64.toNat_ofNat_of_lt hbound
  rw [readPointer?, htarget, hread, Option.map_some, List.take_take, Nat.min_eq_right hwidth,
    wordOfBytes_take hwidth]

/-- **A word of an array that is held is read back:** inside the array no other region starts. -/
theorem readPointer?_of_holds (h : m.memory.Holds address (m.bytesOfWords words))
    (hpos : 0 < m.pointerBytes) (hwidth : m.pointerBytes ≤ 8) {index : Nat} {word : UInt64}
    (hword : words[index]? = some word)
    (hbound : address.toNat + index * m.pointerBytes < addressBound) :
    m.readPointer? (UInt64.ofNat (address.toNat + index * m.pointerBytes)) =
      some (UInt64.ofNat (word.toNat % 2 ^ (8 * m.pointerBytes))) := by
  have hindex : index < words.length := (List.getElem?_eq_some_iff.1 hword).1
  have hinside : index * m.pointerBytes < (m.bytesOfWords words).length := by
    rw [length_bytesOfWords hwidth]
    exact Nat.mul_lt_mul_of_pos_right hindex hpos
  exact readPointer?_of_mapped h.mapped hwidth hword (h.clear hinside) hbound

/-- **Words and texts are read back** once they have been mapped, whatever else is in memory. A word
of an array is read back modulo the range of a pointer, if no other region starts between the array
and the word. From any character of a text on the text is read up to its first zero character, if no
other region starts inside it; where that is too long, nothing is read. -/
theorem readBack (m : Machine) (address : UInt64) :
    (∀ words index word, m.pointerBytes ≤ 8 → words[index]? = some word →
      address.toNat + index * m.pointerBytes < addressBound →
      m.memory.Clear address (address.toNat + index * m.pointerBytes) →
      (m.mapWords address words).readPointer?
          (UInt64.ofNat (address.toNat + index * m.pointerBytes)) =
        some (UInt64.ofNat (word.toNat % 2 ^ (8 * m.pointerBytes)))) ∧
    (∀ front back : String,
      address.toNat + (Utf8.encode (front ++ back)).length < addressBound →
      m.memory.Clear address (address.toNat + (Utf8.encode (front ++ back)).length) →
      (m.mapText address (front ++ back)).readText?
          (UInt64.ofNat (address.toNat + (Utf8.encode front).length)) =
        if (Utf8.encode (Memory.upToZero back)).length ≤ maxTextLength then
          some (Memory.upToZero back) else none) := by
  constructor
  · intro words index word hwidth hword hbound hclear
    exact readPointer?_of_mapped (m := m.mapWords address words) (Memory.find?_map _ _ _) hwidth
      hword (hclear.map _) hbound
  · intro front back hbound hclear
    exact Memory.readText?_of_mapped (Memory.find?_map _ _ _) (hclear.map _) hbound

/-- A machine with pointers of four bytes. One of its regions is where an array of words will be,
and one starts inside the second word. -/
def scratch : Machine := (({ pointerBits := 32 } : Machine).map 8192 [7]).map 8197 [1, 2]

/-- A text that is one byte too long. -/
def longText : String := String.ofList (List.replicate (maxTextLength + 1) 'a')

/-- `longText` has one byte for each character. -/
theorem length_encode_longText : (Utf8.encode longText).length = maxTextLength + 1 := by
  have hchar : 'a'.utf8Size = 1 := by decide
  simp [Utf8.encode, longText, hchar]

theorem upToZero_longText : Memory.upToZero longText = longText := by
  apply Memory.upToZero_eq
  simp [longText]

/-- The second word is cut to four bytes, a text ends at its zero character, and the long text is
not read. -/
theorem readBack_scratch :
    (scratch.mapWords 8192 [5, 0x100002000]).readPointer? 8196 = some 0x2000 ∧
    (scratch.mapText 4096 "né\x00x").readText? 4097 = some "é" ∧
    (scratch.mapText 1024 longText).readText? 1024 = none := by
  refine ⟨?_, ?_, ?_⟩
  · have hread := (readBack scratch 8192).1 [5, 0x100002000] 1 0x100002000 (by decide) rfl
      (by decide) (by decide)
    have haddress : UInt64.ofNat ((8192 : UInt64).toNat + 1 * scratch.pointerBytes) = 8196 := by
      decide
    have hword : UInt64.ofNat ((0x100002000 : UInt64).toNat % 2 ^ (8 * scratch.pointerBytes)) =
        0x2000 := by decide
    rwa [haddress, hword] at hread
  · have hread := (readBack scratch 4096).2 "n" "é\x00x" (by decide) (by decide)
    have htext : "n" ++ "é\x00x" = "né\x00x" := by decide
    have haddress : UInt64.ofNat ((4096 : UInt64).toNat + (Utf8.encode "n").length) = 4097 := by
      decide
    have hend : Memory.upToZero "é\x00x" = "é" := by decide
    rwa [htext, haddress, hend, if_pos (by decide)] at hread
  · have hread := (readBack scratch 1024).2 "" longText
    have haddress : UInt64.ofNat ((1024 : UInt64).toNat + (Utf8.encode "").length) = 1024 := by
      decide
    rw [String.empty_append, upToZero_longText, length_encode_longText, haddress,
      if_neg (Nat.not_succ_le_self _)] at hread
    exact hread (by decide) (by decide)

end Machine

end NativeFlow
