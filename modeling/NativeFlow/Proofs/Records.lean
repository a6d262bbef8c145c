import NativeFlow.Proofs.Memory
import NativeFlow.Proofs.Registry

namespace NativeFlow

/-!
# Method records in memory

An array of method records has three pointers for each record: to the name, to the descriptor, and
to the function. A registration reads the records one after the other, as many as it is told to and
no more than it is allowed to, and stops where the array ends.

* `StoredRecord`, `Machine.HoldsRecords`: records as they are laid out in memory.
* `StoredRecord.record`: the method that a record registers. Its function is cut to the width of a
  pointer.
* `Machine.readRecord?_of_stored`, `Machine.readRecord?_at_end`: every record of an array is read as
  this method, and behind the last one there is none.
* `Registration.natives_addRecords`: the registrations of one call, from what is read at each index.
* `Function.registers_stored`: a call registers the methods of the first records and no others.
-/

/-! ### Layout -/

/-- A method record and the texts it points at. -/
structure StoredRecord where
  nameAddress : UInt64
  name : String
  signatureAddress : UInt64
  signature : String
  pointer : UInt64

namespace StoredRecord

/-- The words of a record. -/
def words (r : StoredRecord) : List UInt64 := [r.nameAddress, r.signatureAddress, r.pointer]

/-- The method that a record registers on a machine with pointers of some bytes. -/
def record (pointerBytes : Nat) (r : StoredRecord) : NativeRecord where
  key := ⟨r.name, r.signature⟩
  pointer := UInt64.ofNat (r.pointer.toNat % 2 ^ (8 * pointerBytes))

/-- The words of an array of records, record by record. -/
theorem getElem?_words {stored : List StoredRecord} {index field : Nat} {r : StoredRecord}
    (h : stored[index]? = some r) (hfield : field < 3) :
    (stored.flatMap words)[3 * index + field]? = r.words[field]? := by
  -- Induction on the records: the words of the first take up three places.
  induction stored generalizing index with
  | nil => cases h
  | cons first stored ih =>
    rw [List.flatMap_cons]
    cases index with
    | zero =>
      cases h
      rw [Nat.mul_zero, Nat.zero_add]
      exact List.getElem?_append_left hfield
    | succ index =>
      have hindex : 3 * (index + 1) + field = first.words.length + (3 * index + field) := by
        rw [Nat.mul_succ, Nat.add_comm _ 3, Nat.add_assoc]
        rfl
      rw [hindex, List.getElem?_append_right (Nat.le_add_right _ _), Nat.add_sub_cancel_left]
      exact ih h

end StoredRecord

namespace Machine

/-- A text is mapped with a zero byte behind it, where a pointer can reach it and a reader can read
it. -/
@[mk_iff]
structure HoldsText (m : Machine) (address : UInt64) (text : String) : Prop where
  holds : m.memory.Holds address (Utf8.encode text ++ [0])
  zero : '\x00' ∉ text.toList
  length : (Utf8.encode text).length ≤ maxTextLength
  reachable : address.toNat < 2 ^ (8 * m.pointerBytes)
  bound : address.toNat + (Utf8.encode text).length < addressBound

instance (m : Machine) (address : UInt64) (text : String) : Decidable (m.HoldsText address text) :=
  decidable_of_iff' _ (holdsText_iff m address text)

/-- An array of method records is mapped, together with the texts of the records, and nothing is
mapped behind it. -/
structure HoldsRecords (m : Machine) (base : UInt64) (stored : List StoredRecord) : Prop where
  width : m.pointerBytes = 4 ∨ m.pointerBytes = 8
  array : m.memory.Holds base (m.bytesOfWords (stored.flatMap StoredRecord.words))
  texts : ∀ r ∈ stored, m.HoldsText r.nameAddress r.name ∧
    m.HoldsText r.signatureAddress r.signature
  bound : base.toNat + stored.length * (3 * m.pointerBytes) ≤ addressBound
  ended : m.memory.byte? (m.recordAddress base stored.length).toNat = none

variable {m : Machine} {base : UInt64} {stored : List StoredRecord}

/-! ### Reading records -/

/-- A text that is held is read. -/
theorem HoldsText.readText? {address : UInt64} {text : String} (h : m.HoldsText address text) :
    m.readText? address = some text :=
  h.holds.readText? h.zero h.length h.bound

/-- Its address is not cut, since a pointer can reach it. -/
theorem HoldsText.ofNat_mod {address : UInt64} {text : String} (h : m.HoldsText address text) :
    UInt64.ofNat (address.toNat % 2 ^ (8 * m.pointerBytes)) = address := by
  rw [Nat.mod_eq_of_lt h.reachable, UInt64.ofNat_toNat]

/-- A pointer of a record. -/
theorem readPointerAt?_of_stored (h : m.HoldsRecords base stored) {index field : Nat}
    {r : StoredRecord} (hr : stored[index]? = some r) {word : UInt64}
    (hword : r.words[field]? = some word) :
    m.readPointerAt? (m.recordAddress base index) field =
      some (UInt64.ofNat (word.toNat % 2 ^ (8 * m.pointerBytes))) := by
  have hwidth := h.width
  have hbound := h.bound
  have hfield : field < 3 := (List.getElem?_eq_some_iff.1 hword).1
  have hindex : index < stored.length := (List.getElem?_eq_some_iff.1 hr).1
  -- The record ends before the array does.
  have hend : (index + 1) * (3 * m.pointerBytes) ≤ stored.length * (3 * m.pointerBytes) :=
    Nat.mul_le_mul_right _ hindex
  rw [Nat.succ_mul] at hend
  have hoffset : field * m.pointerBytes < 3 * m.pointerBytes :=
    Nat.mul_lt_mul_of_pos_right hfield (by omega)
  have haddress : (m.recordAddress base index).toNat = base.toNat + index * (3 * m.pointerBytes) :=
    UInt64.toNat_ofNat_of_lt (show _ < addressBound by omega)
  have htarget : base.toNat + index * (3 * m.pointerBytes) + field * m.pointerBytes =
      base.toNat + (3 * index + field) * m.pointerBytes := by
    rw [Nat.add_mul, Nat.add_assoc, Nat.mul_left_comm, Nat.mul_assoc]
  have hinside : base.toNat + (3 * index + field) * m.pointerBytes < addressBound := by omega
  rw [readPointerAt?, haddress, htarget, if_pos hinside]
  refine readPointer?_of_holds h.array (by omega) (by omega) ?_ hinside
  rw [StoredRecord.getElem?_words hr hfield, hword]

/-- **A record of an array is read** as the method that it registers. -/
theorem readRecord?_of_stored (h : m.HoldsRecords base stored) {index : Nat} {r : StoredRecord}
    (hr : stored[index]? = some r) :
    m.readRecord? (m.recordAddress base index) = some (r.record m.pointerBytes) := by
  obtain ⟨hname, hsignature⟩ := h.texts r (List.mem_of_getElem? hr)
  have hfirst := readPointerAt?_of_stored h hr (rfl : r.words[0]? = some r.nameAddress)
  have hsecond := readPointerAt?_of_stored h hr (rfl : r.words[1]? = some r.signatureAddress)
  have hthird := readPointerAt?_of_stored h hr (rfl : r.words[2]? = some r.pointer)
  rw [hname.ofNat_mod] at hfirst
  rw [hsignature.ofNat_mod] at hsecond
  simp only [readRecord?, hfirst, hsecond, hthird, hname.readText?, hsignature.readText?]
  rfl

/-- **Behind the last record there is none.** -/
theorem readRecord?_at_end (h : m.HoldsRecords base stored) :
    m.readRecord? (m.recordAddress base stored.length) = none := by
  have hwidth := h.width
  -- The first pointer of a record there would start at an address without a byte.
  have hnone : m.readPointerAt? (m.recordAddress base stored.length) 0 = none := by
    have hinside : (m.recordAddress base stored.length).toNat < addressBound := UInt64.toNat_lt _
    rw [readPointerAt?, Nat.zero_mul, Nat.add_zero, if_pos hinside, readPointer?,
      UInt64.ofNat_toNat, Memory.read?_eq_none h.ended (by omega)]
    rfl
  simp only [readRecord?, hnone]

end Machine

/-! ### Registering records -/

namespace Registration

/-- The registrations of one call, from what is read at each index: the methods of the records are
registered from some index on, up to a number of them or to where the array ends. -/
theorem natives_addRecords {m : Machine} {base : UInt64} {records : List NativeRecord}
    (hread : ∀ index ≤ records.length,
      m.readRecord? (m.recordAddress base index) = records[index]?)
    (className : Option String) (r : Registration) (count : Nat) {index : Nat}
    (hindex : index ≤ records.length) :
    (r.addRecords m className base index count).natives =
      r.natives.registerAll className ((records.drop index).take count) := by
  -- One record less is allowed at the next index. The array may end before the number is used up.
  induction count generalizing r index with
  | zero => rfl
  | succ count ih =>
    rw [addRecords, hread index hindex]
    cases hrecord : records[index]? with
    | none =>
      have hend : records.length ≤ index := List.getElem?_eq_none_iff.1 hrecord
      rw [List.drop_eq_nil_of_le hend]
      rfl
    | some record =>
      obtain ⟨hlt, rfl⟩ := List.getElem?_eq_some_iff.1 hrecord
      rw [List.drop_eq_getElem_cons hlt, List.take_succ_cons]
      exact ih (r.add className records[index]) hlt

end Registration

/-- What is read at the index of a record is what the record registers. -/
theorem Machine.HoldsRecords.readRecord? {m : Machine} {base : UInt64} {stored : List StoredRecord}
    (h : m.HoldsRecords base stored) (index : Nat)
    (hindex : index ≤ (stored.map (StoredRecord.record m.pointerBytes)).length) :
    m.readRecord? (m.recordAddress base index) =
      (stored.map (StoredRecord.record m.pointerBytes))[index]? := by
  rw [List.length_map] at hindex
  rw [List.getElem?_map]
  cases hr : stored[index]? with
  | some r => exact readRecord?_of_stored h hr
  | none =>
    have hend : stored.length ≤ index := List.getElem?_eq_none_iff.1 hr
    obtain rfl : index = stored.length := Nat.le_antisymm hindex hend
    exact readRecord?_at_end h

/-- **A call registers exactly the records that are laid out in memory.** On a machine with pointers
of four or eight bytes, a call that is told where an array of records is registers the methods of
the first records for the class that it is given, one after the other: as many as it is told, no
more than it is allowed to, and no more than there are. Their functions are cut to the width of a
pointer. All other methods are bound as before. The call is covered and returns one value of 32
bits. -/
theorem Function.registers_stored {f : Function} (hf : f ∈ Interface.functions)
    (hname : f.name = "RegisterNatives") {c : Call} {owner base count : Value} {more : List Value}
    (hargs : c.args = owner :: base :: count :: more) {stored : List StoredRecord}
    (hstored : c.machine.HoldsRecords base.handle stored) :
    ∃ reply value, f.call c = .ok reply ∧ reply.effect.modeled = true ∧
      reply.value? = some value ∧ value.bits = 32 ∧
      reply.effect.natives = c.natives.registerAll owner.className?
        ((stored.take (min count.handle.toNat maxRecords)).map
          (StoredRecord.record c.machine.pointerBytes)) ∧
      ∀ key, (∀ r ∈ stored.take (min count.handle.toNat maxRecords), key ≠ ⟨r.name, r.signature⟩) →
        reply.effect.natives.find? key = c.natives.find? key := by
  have hbehaviour : f.behaviour = .registerNatives := (Interface.registerNatives_iff hf).2 hname
  have hcall : f.call c = .ok (Behaviour.registerNatives.reply c) := by
    rw [Function.call, hbehaviour]
    rfl
  have hclass : c.classArg? 0 = owner.className? := by
    rw [Call.classArg?, Call.arg?, hargs]
    rfl
  have hnatives : (Behaviour.registerNatives.reply c).effect.natives =
      c.natives.registerAll owner.className?
        ((stored.take (min count.handle.toNat maxRecords)).map
          (StoredRecord.record c.machine.pointerBytes)) := by
    have hregistered := Registration.natives_addRecords hstored.readRecord? owner.className?
      { natives := c.natives } (min count.handle.toNat maxRecords) (Nat.zero_le _)
    rw [List.drop_zero, ← List.map_take] at hregistered
    rw [Behaviour.reply_effect, Behaviour.effect, Call.registerNatives, hargs, ← hregistered,
      ← hclass]
  have hmodeled : (Behaviour.registerNatives.reply c).effect.modeled = true := by
    rw [Behaviour.reply_effect, Behaviour.effect, Call.registerNatives, hargs]
    rfl
  refine ⟨_, _, hcall, hmodeled, rfl, rfl, hnatives, fun key hkey => ?_⟩
  rw [hnatives]
  refine Registry.find?_registerAll_of_not_mem fun hmem => ?_
  rw [List.map_map] at hmem
  obtain ⟨r, hr, rfl⟩ := List.mem_map.1 hmem
  exact hkey r hr rfl

/-! ### Two methods of a class -/

namespace Call

/-- Two method records that share a descriptor. The first function has too many bits. -/
def workerStored : List StoredRecord :=
  [⟨4096, "run", 4160, "()V", 0x100002000⟩, ⟨4224, "stop", 4160, "()V", 0x3000⟩]

/-- A machine with pointers of four bytes that has these records and their texts in memory. -/
def workerMachine : Machine :=
  ((({ pointerBits := 32 } : Machine).mapText 4096 "run").mapText 4160 "()V").mapText 4224 "stop"
    |>.mapWords 8192 (workerStored.flatMap StoredRecord.words)

/-- A call that is told that there are five records. -/
def registerWorker : Call where
  machine := workerMachine
  catalog := {}
  natives := Registry.clockRegistry
  args := [⟨1, 32, [.ofClass "Worker"]⟩, ⟨8192, 32, []⟩, ⟨5, 32, []⟩]

set_option maxRecDepth 20000 in
/-- `workerMachine` holds the records. -/
theorem holdsRecords_worker : workerMachine.HoldsRecords 8192 workerStored where
  width := .inl (by decide +kernel)
  array := Machine.holds_mapWords (by decide +kernel)
  texts := by decide +kernel
  bound := by decide +kernel
  ended := by decide +kernel

set_option maxRecDepth 20000 in
/-- Both methods are registered for the class, and a method of another class stays as it is. -/
theorem registers_stored_worker :
    ∃ f reply value, Interface.ofName? "RegisterNatives" = some f ∧
      f.call registerWorker = .ok reply ∧ reply.value? = some value ∧ value.bits = 32 ∧
      reply.effect.natives = Registry.clockRegistry.registerAll (some "Worker")
        [⟨⟨"run", "()V"⟩, 0x2000⟩, ⟨⟨"stop", "()V"⟩, 0x3000⟩] ∧
      reply.effect.natives.find? ⟨"tick", "()V"⟩ = some ⟨some "Clock", 0x1000⟩ := by
  obtain ⟨f, hf, hname⟩ : ∃ f, Interface.ofName? "RegisterNatives" = some f ∧
      f.name = "RegisterNatives" := ⟨_, rfl, rfl⟩
  have hmem : f ∈ Interface.functions := List.mem_of_find?_eq_some hf
  obtain ⟨reply, value, hcall, -, hvalue, hbits, hnatives, hother⟩ :=
    Function.registers_stored hmem hname (c := registerWorker) rfl holdsRecords_worker
  refine ⟨f, reply, value, hf, hcall, hvalue, hbits, hnatives, ?_⟩
  rw [hother ⟨"tick", "()V"⟩ (by decide +kernel)]
  rfl

end Call

end NativeFlow
