import NativeFlow.Proofs.Memory

namespace NativeFlow

/-!
# Reads of several bytes and of single bytes

All bytes of a read are looked for in the region of its first address. Single bytes are looked for
in the regions of their own addresses. Both see the same memory as far as no region starts inside a
read. Where regions touch, the bytes on both sides are there, but no read goes across; where a
region lies over another one, a read that starts in front of it sees the bytes below.

* `Memory.regionBelow?_spec`, `Memory.exists_regionBelow?`: the region of an address is the last of
  those that start at or below it.
* `Memory.Bytewise`: a read sees what reads of its single bytes see.
* `Memory.bytewise_of_region`: the reads that stay inside what single bytes see of a region.
* `Memory.Whole`: all regions are seen in full by reads of single bytes.
* `Memory.Seamless`: a region that reaches the start of another one goes on like the other one.
* `Memory.bytewise_iff_seamless`: these are the images in which all reads are bytewise.
-/

namespace Memory

variable {m : Memory} {start : UInt64} {region : Array UInt8} {address target length : Nat}

/-! ### The region of an address -/

/-- The regions that are searched are all that start at or below the address, since regions are kept
in the order of their starts. -/
theorem mem_takeWhile_iff {entries : List (UInt64 × Array UInt8)} (hsorted : Assoc.Sorted entries)
    {entry : UInt64 × Array UInt8} :
    entry ∈ entries.takeWhile (fun region => region.1.toNat ≤ target) ↔
      entry ∈ entries ∧ entry.1.toNat ≤ target := by
  induction entries with
  | nil => simp
  | cons first rest ih =>
    obtain ⟨hfirst, hrest⟩ := List.pairwise_cons.1 hsorted
    -- A region that starts behind the target ends the search, and all later ones start further
    -- behind.
    by_cases hle : first.1.toNat ≤ target
    · rw [List.takeWhile_cons_of_pos (by simpa using hle), List.mem_cons, ih hrest, List.mem_cons]
      constructor
      · rintro (rfl | ⟨hmem, hentry⟩)
        · exact ⟨.inl rfl, hle⟩
        · exact ⟨.inr hmem, hentry⟩
      · rintro ⟨rfl | hmem, hentry⟩
        · exact .inl rfl
        · exact .inr ⟨hmem, hentry⟩
    · rw [List.takeWhile_cons_of_neg (by simpa using hle)]
      refine ⟨fun h => absurd h List.not_mem_nil, fun ⟨hmem, hentry⟩ => ?_⟩
      rcases List.mem_cons.1 hmem with rfl | hmem
      · exact absurd hentry hle
      · have hlt : first.1 < entry.1 := Std.compare_eq_lt.1 (hfirst entry hmem)
        have hlt' : first.1.toNat < entry.1.toNat := hlt
        omega

/-- The region of an address starts at or below it, and no other one starts between the two. -/
theorem regionBelow?_spec (h : m.regionBelow? target = some (start, region)) :
    (start, region) ∈ m.regions.entries ∧ start.toNat ≤ target ∧ m.Clear start target := by
  obtain ⟨front, hfront⟩ := List.getLast?_eq_some_iff.1 h
  have hsearched : (start, region) ∈
      m.regions.entries.takeWhile fun region => region.1.toNat ≤ target := by simp [hfront]
  have hlast := (mem_takeWhile_iff m.regions.sorted).1 hsearched
  refine ⟨hlast.1, hlast.2, fun other hmem hlt => ?_⟩
  by_contra hle
  -- Another region up to the target would be searched too, in front of the last one.
  have hother := (mem_takeWhile_iff m.regions.sorted).2 ⟨hmem, Nat.not_lt.1 hle⟩
  have hsorted := m.regions.sorted.sublist
    (List.takeWhile_sublist fun region => region.1.toNat ≤ target)
  rw [hfront] at hother hsorted
  rcases List.mem_append.1 hother with hbefore | hsame
  · have hbelow : other.1 < start := Std.compare_eq_lt.1
      ((List.pairwise_append.1 hsorted).2.2 other hbefore _ (List.mem_singleton_self _))
    exact UInt64.lt_asymm hlt hbelow
  · rw [List.mem_singleton.1 hsame] at hlt
    exact UInt64.lt_irrefl start hlt

/-- An address behind the start of a region has a region, which starts no earlier. -/
theorem exists_regionBelow? (hmem : (start, region) ∈ m.regions.entries)
    (hle : start.toNat ≤ target) :
    ∃ start' region', m.regionBelow? target = some (start', region') ∧
      start.toNat ≤ start'.toNat := by
  cases hregion : m.regionBelow? target with
  | none =>
    have hsearched := (mem_takeWhile_iff m.regions.sorted).2 ⟨hmem, hle⟩
    rw [List.getLast?_eq_none_iff.1 hregion] at hsearched
    exact absurd hsearched List.not_mem_nil
  | some last =>
    refine ⟨last.1, last.2, rfl, ?_⟩
    by_contra hlt
    have hbeyond : target < start.toNat := (regionBelow?_spec hregion).2.2 _ hmem (Nat.not_le.1 hlt)
    omega

/-- A byte is looked for in the region of its own address. -/
theorem byte?_eq (h : m.regionBelow? target = some (start, region)) :
    m.byte? target = region[target - start.toNat]? := by
  simp only [byte?, h]

/-- A read takes all of its bytes from the region of its first address, or fails. -/
theorem read?_eq (h : m.regionBelow? target = some (start, region)) (length : Nat) :
    m.read? target length =
      if target - start.toNat + length ≤ region.size then
        some ((region.toList.drop (target - start.toNat)).take length) else none := by
  simp only [read?, h]
  simp [List.extract_eq_take_drop]

/-- A read of one byte. -/
theorem read?_one (m : Memory) (target : Nat) : m.read? target 1 = (m.byte? target).map ([·]) := by
  cases hregion : m.regionBelow? target with
  | none => simp only [read?, byte?, hregion, Option.map_none]
  | some last =>
    obtain ⟨start, region⟩ := last
    rw [read?_eq hregion, byte?_eq hregion]
    by_cases hinside : target - start.toNat < region.size
    · rw [if_pos (Nat.succ_le_of_lt hinside), Array.getElem?_eq_getElem hinside,
        List.drop_eq_getElem_cons (by simpa using hinside)]
      simp
    · rw [if_neg (by omega), Array.getElem?_eq_none (Nat.not_lt.1 hinside)]
      rfl

/-- A read of one byte finds it where `byte?` does. -/
theorem read?_one_eq_some_iff {byte : UInt8} :
    m.read? target 1 = some [byte] ↔ m.byte? target = some byte := by
  rw [read?_one]
  simp

/-- A read of one byte fails where there is none. -/
theorem read?_one_eq_none_iff : m.read? target 1 = none ↔ m.byte? target = none := by
  rw [read?_one, Option.map_eq_none_iff]

/-! ### Reads that see what single bytes see -/

/-- A read of several bytes sees what reads of the single bytes see: it gives the bytes that they
give, and nothing if one of them gives nothing. -/
structure Bytewise (m : Memory) (address length : Nat) : Prop where
  some_iff (bytes : List UInt8) : m.read? address length = some bytes ↔
    bytes.length = length ∧
      ∀ i byte, bytes[i]? = some byte → m.read? (address + i) 1 = some [byte]
  none_iff : m.read? address length = none ↔ ∃ i < length, m.read? (address + i) 1 = none

/-- A read that fails is bytewise if one of its bytes is missing. -/
theorem bytewise_of_none (hread : m.read? address length = none) {i : Nat} (hi : i < length)
    (hbyte : m.byte? (address + i) = none) : m.Bytewise address length where
  some_iff bytes := by
    rw [hread]
    refine ⟨fun h => (Option.some_ne_none _ h.symm).elim, fun ⟨hlength, hbytes⟩ => ?_⟩
    have hsome := hbytes i _ (List.getElem?_eq_getElem (hlength ▸ hi))
    rw [read?_one_eq_some_iff, hbyte] at hsome
    cases hsome
  none_iff := by
    rw [hread]
    exact ⟨fun _ => ⟨i, hi, read?_one_eq_none_iff.2 hbyte⟩, fun _ => rfl⟩

/-- Below all regions a read and its first byte both fail. -/
theorem bytewise_of_regionBelow?_eq_none (hregion : m.regionBelow? address = none)
    (hpos : 0 < length) : m.Bytewise address length := by
  have hread : m.read? address length = none := by simp only [read?, hregion]
  have hbyte : m.byte? address = none := by simp only [byte?, hregion]
  exact bytewise_of_none hread hpos hbyte

/-- A read that succeeds is bytewise if each of its bytes is the one that `byte?` finds. -/
theorem bytewise_of_some {bytes : List UInt8} (hread : m.read? address length = some bytes)
    (hlength : bytes.length = length)
    (hbytes : ∀ i < length, m.byte? (address + i) = bytes[i]?) : m.Bytewise address length where
  some_iff other := by
    rw [hread, Option.some.injEq]
    constructor
    · rintro rfl
      refine ⟨hlength, fun i byte hbyte => read?_one_eq_some_iff.2 ?_⟩
      rw [hbytes i (hlength ▸ (List.getElem?_eq_some_iff.1 hbyte).1), hbyte]
    · rintro ⟨hlength', hbytes'⟩
      refine List.ext_getElem (hlength.trans hlength'.symm) fun i hi hi' => ?_
      have hbyte := read?_one_eq_some_iff.1 (hbytes' i _ (List.getElem?_eq_getElem hi'))
      rw [hbytes i (hlength ▸ hi), List.getElem?_eq_getElem hi] at hbyte
      exact Option.some.inj hbyte
  none_iff := by
    rw [hread]
    refine ⟨fun h => (Option.some_ne_none _ h).elim, fun ⟨i, hi, hnone⟩ => ?_⟩
    rw [read?_one_eq_none_iff, hbytes i hi, List.getElem?_eq_none_iff] at hnone
    omega

/-- **A read is bytewise** if single bytes up to the end of its region are seen in this region. -/
theorem bytewise_of_region (hregion : m.regionBelow? address = some (start, region))
    (hpos : 0 < length)
    (h : ∀ i < length, address - start.toNat + i ≤ region.size →
      m.byte? (address + i) = region[address - start.toNat + i]?) : m.Bytewise address length := by
  by_cases hinside : address - start.toNat + length ≤ region.size
  · refine bytewise_of_some ((read?_eq hregion length).trans (if_pos hinside)) ?_ fun i hi => ?_
    · rw [List.length_take, List.length_drop, Array.length_toList]
      omega
    · rw [h i hi (by omega), List.getElem?_take_of_lt hi, List.getElem?_drop, Array.getElem?_toList]
  · have hread := (read?_eq hregion length).trans (if_neg hinside)
    by_cases hbefore : address - start.toNat ≤ region.size
    · -- The region ends inside the read, and single bytes see its end.
      have hend : m.byte? (address + (region.size - (address - start.toNat))) = none := by
        rw [h _ (by omega) (by omega)]
        exact Array.getElem?_eq_none (by omega)
      exact bytewise_of_none hread (by omega) hend
    · refine bytewise_of_none hread (i := 0) hpos ?_
      rw [Nat.add_zero, byte?_eq hregion]
      exact Array.getElem?_eq_none (by omega)

/-- A read is bytewise if no region starts inside it. -/
theorem bytewise_of_apart (hpos : 0 < length)
    (h : ∀ region ∈ m.regions.entries,
      ¬ (address < region.1.toNat ∧ region.1.toNat < address + length)) :
    m.Bytewise address length := by
  cases hregion : m.regionBelow? address with
  | none => exact bytewise_of_regionBelow?_eq_none hregion hpos
  | some last =>
    obtain ⟨start, region⟩ := last
    obtain ⟨hmem, hle, hclear⟩ := regionBelow?_spec hregion
    refine bytewise_of_region hregion hpos fun i hi _ => ?_
    have hsame : m.regionBelow? (address + i) = some (start, region) := by
      refine regionBelow?_eq hmem (by omega) fun other hother hlt => ?_
      have hbehind := hclear other hother hlt
      have hapart := h other hother
      omega
    rw [byte?_eq hsame, Nat.sub_add_comm hle]

/-! ### Images in which all reads are bytewise -/

/-- All regions are seen in full by reads of single bytes: each of their bytes, and their end. -/
def Whole (m : Memory) : Prop :=
  ∀ start region, (start, region) ∈ m.regions.entries → ∀ i ≤ region.size,
    start.toNat + i < addressBound → m.byte? (start.toNat + i) = region[i]?

/-- A region that reaches the start of another one has the same bytes behind it as the other one. -/
def Seamless (m : Memory) : Prop :=
  ∀ first ∈ m.regions.entries, ∀ second ∈ m.regions.entries, first.1 < second.1 →
    second.1.toNat ≤ first.1.toNat + first.2.size → ∀ i, second.1.toNat + i < addressBound →
    first.2[second.1.toNat - first.1.toNat + i]? = second.2[i]?

/-- In a seamless image every region is seen in full: a later region that hides a part of it has the
same bytes. -/
theorem Seamless.whole (h : m.Seamless) : m.Whole := by
  intro start region hmem i hi hbound
  obtain ⟨start', region', hregion, hle⟩ :=
    exists_regionBelow? hmem (Nat.le_add_right start.toNat i)
  obtain ⟨hmem', hle', hclear⟩ := regionBelow?_spec hregion
  by_cases hlt : start < start'
  · -- The byte is looked for in a later region, which the first one reaches.
    have hsame := h _ hmem _ hmem' hlt (by simp only; omega) (start.toNat + i - start'.toNat)
      (by simp only; omega)
    rw [byte?_eq hregion, ← hsame]
    congr 1
    simp only
    omega
  · have hstart : start = start' := UInt64.toNat_inj.1 (Nat.le_antisymm hle (Nat.not_lt.1 hlt))
    subst hstart
    rw [byte?_eq (regionBelow?_eq hmem (Nat.le_add_right _ _) hclear), Nat.add_sub_cancel_left]

/-- Conversely, where both of two regions are seen in full they have the same bytes. -/
theorem Whole.seamless (h : m.Whole) : m.Seamless := by
  rintro ⟨start, region⟩ hmem ⟨start', region'⟩ hmem' hlt hreach i hbound
  simp only at hlt hreach hbound ⊢
  have hstart : start.toNat < start'.toNat := hlt
  -- A byte behind the second start is seen in both regions, up to the end of the shorter one.
  have hfirst (k : Nat) (hk : start'.toNat - start.toNat + k ≤ region.size)
      (hb : start'.toNat + k < addressBound) :
      m.byte? (start'.toNat + k) = region[start'.toNat - start.toNat + k]? := by
    have hwhole := h start region hmem _ hk (by omega)
    rwa [← Nat.add_assoc, Nat.add_sub_cancel' (Nat.le_of_lt hstart)] at hwhole
  have hsecond := h start' region' hmem'
  by_cases hfirst' : start'.toNat - start.toNat + i ≤ region.size
  · by_cases hsecond' : i ≤ region'.size
    · rw [← hfirst i hfirst' hbound, hsecond i hsecond' hbound]
    · -- The second region ends earlier, where the first one still has a byte.
      have hend := hfirst region'.size (by omega) (by omega)
      rw [hsecond region'.size (Nat.le_refl _) (by omega), Array.getElem?_eq_none (Nat.le_refl _),
        Array.getElem?_eq_getElem (by omega)] at hend
      cases hend
  · rw [Array.getElem?_eq_none (by omega)]
    by_cases hsecond' : i < region'.size
    · have hend := hsecond (region.size - (start'.toNat - start.toNat)) (by omega) (by omega)
      rw [hfirst _ (by omega) (by omega), Array.getElem?_eq_none (by omega),
        Array.getElem?_eq_getElem (by omega)] at hend
      cases hend
    · rw [Array.getElem?_eq_none (by omega)]

/-- Where all regions are seen in full, all reads are bytewise. -/
theorem Whole.bytewise (h : m.Whole) (hpos : 0 < length)
    (hbound : address + length ≤ addressBound) : m.Bytewise address length := by
  cases hregion : m.regionBelow? address with
  | none => exact bytewise_of_regionBelow?_eq_none hregion hpos
  | some last =>
    obtain ⟨start, region⟩ := last
    obtain ⟨hmem, hle, -⟩ := regionBelow?_spec hregion
    refine bytewise_of_region hregion hpos fun i hi hinside => ?_
    have hwhole := h start region hmem _ hinside (by omega)
    rwa [← Nat.add_assoc, Nat.add_sub_cancel' hle] at hwhole

/-- If all reads are bytewise, then so are those of a region as a whole, and of one byte more. -/
theorem whole_of_bytewise (h : ∀ address length, 0 < length → address + length ≤ addressBound →
    m.Bytewise address length) : m.Whole := by
  intro start region hmem i hi hbound
  have hregion : m.regionBelow? start.toNat = some (start, region) :=
    regionBelow?_eq hmem (Nat.le_refl _) fun _ _ hlt => hlt
  have hinside (k : Nat) (hk : k < region.size) (hb : start.toNat + k < addressBound) :
      m.byte? (start.toNat + k) = region[k]? := by
    have hread := read?_eq hregion (k + 1)
    rw [Nat.sub_self, Nat.zero_add, if_pos (Nat.succ_le_of_lt hk), List.drop_zero] at hread
    have hbytes := ((h start.toNat (k + 1) (Nat.succ_pos k) hb).some_iff _).1 hread
    rw [Array.getElem?_eq_getElem hk]
    refine read?_one_eq_some_iff.1 (hbytes.2 k _ ?_)
    rw [List.getElem?_take_of_lt (Nat.lt_succ_self k), Array.getElem?_toList,
      Array.getElem?_eq_getElem hk]
  by_cases hlast : i < region.size
  · exact hinside i hlast hbound
  · -- One byte more than the region has is not read, and only the last of them can be missing.
    obtain rfl : i = region.size := by omega
    have hread := read?_eq hregion (region.size + 1)
    rw [Nat.sub_self, Nat.zero_add, if_neg (Nat.not_succ_le_self _)] at hread
    obtain ⟨k, hk, hnone⟩ := (h start.toNat _ (Nat.succ_pos _) hbound).none_iff.1 hread
    rw [read?_one_eq_none_iff] at hnone
    have hk' : k = region.size := by
      by_contra hne
      rw [hinside k (by omega) (by omega), Array.getElem?_eq_none_iff] at hnone
      omega
    rw [← hk', hnone, hk', Array.getElem?_eq_none (Nat.le_refl _)]

/-- **When reads of several bytes and of single bytes agree.** In a memory image all reads are
bytewise if and only if every region that reaches the start of another one has the same bytes behind
it as the other one. In any image a read is bytewise if no region starts inside it. -/
theorem bytewise_iff_seamless (m : Memory) :
    ((∀ address length, 0 < length → address + length ≤ addressBound →
        m.Bytewise address length) ↔ m.Seamless) ∧
    ∀ address length, 0 < length →
      (∀ region ∈ m.regions.entries,
        ¬ (address < region.1.toNat ∧ region.1.toNat < address + length)) →
      m.Bytewise address length := by
  refine ⟨⟨fun h => (whole_of_bytewise h).seamless, fun h address length hpos hbound => ?_⟩, ?_⟩
  · exact h.whole.bytewise hpos hbound
  · exact fun address length hpos hapart => bytewise_of_apart hpos hapart

/-- Two regions with a gap of one byte between them. -/
def gapped : Memory := (({} : Memory).map 4096 [1, 2]).map 4099 [3, 4]

/-- The first region is read byte by byte, and a read over the gap gives nothing because of the byte
in the gap. -/
theorem bytewise_iff_seamless_gapped :
    gapped.Seamless ∧ gapped.Bytewise 4096 5 ∧ gapped.Bytewise 4096 2 := by
  have hseamless : gapped.Seamless := by
    have hentries : gapped.regions.entries = [(4096, #[1, 2]), (4099, #[3, 4])] := rfl
    intro first hfirst second hsecond hlt hreach
    rw [hentries] at hfirst hsecond
    rcases List.mem_pair.1 hfirst with rfl | rfl <;> rcases List.mem_pair.1 hsecond with rfl | rfl
    · exact absurd hlt (by decide)
    · exact absurd hreach (by decide)
    · exact absurd hlt (by decide)
    · exact absurd hlt (by decide)
  obtain ⟨hiff, hapart⟩ := bytewise_iff_seamless gapped
  exact ⟨hseamless, hiff.2 hseamless 4096 5 (by decide) (by decide), hapart 4096 2 (by decide)
    (by decide)⟩

/-- Two regions that touch, and a region with another one over its second byte. -/
def patched : Memory :=
  (((({} : Memory).map 4096 [65, 66]).map 4098 [67, 0]).map 8192 [1, 2, 3, 4]).map 8193 [9]

/-- Four bytes are there one by one, and a text goes over all of them, but they are not read as a
whole. Four others are read as a whole, although the second one is another byte when it is read
alone and the third one is not there. -/
theorem not_bytewise_patched :
    (patched.read? 4096 1 = some [65] ∧ patched.read? 4097 1 = some [66] ∧
      patched.read? 4098 1 = some [67] ∧ patched.read? 4099 1 = some [0] ∧
      patched.readText? 4096 = some "ABC" ∧ patched.read? 4096 4 = none ∧
      ¬ patched.Bytewise 4096 4) ∧
    (patched.read? 8193 1 = some [9] ∧ patched.read? 8194 1 = none ∧
      patched.read? 8192 4 = some [1, 2, 3, 4] ∧ ¬ patched.Bytewise 8192 4) := by
  refine ⟨⟨by decide, by decide, by decide, by decide, by decide, by decide, fun h => ?_⟩,
    ⟨by decide, by decide, by decide, fun h => ?_⟩⟩
  · obtain ⟨i, hi, hnone⟩ := h.none_iff.1 (by decide)
    have hthere : ∀ i < 4, patched.read? (4096 + i) 1 ≠ none := by decide
    exact hthere i hi hnone
  · have hnone : patched.read? 8192 4 = none := h.none_iff.2 ⟨2, by decide, by decide⟩
    exact absurd hnone (by decide)

end Memory

end NativeFlow
