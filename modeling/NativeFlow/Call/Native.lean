import NativeFlow.Call.Object

namespace NativeFlow

/-!
# Registration of native methods

* `Machine.readRecord?`: a method record in memory, which is three pointers to the name, the
  descriptor and the function.
* `Call.registerNatives`: registers the methods of an array of records, up to the first that
  cannot be read, and reports every method that is bound to another function than before.
* `Call.unregisterNatives`: drops the methods of a class.
-/

/-- The largest number of records that one call registers. -/
def maxRecords : Nat := 65536

/-- A method to register: its name and descriptor, and its function. -/
structure NativeRecord where
  key : NativeKey
  pointer : UInt64

namespace Machine

/-- The pointer `index` pointers behind an address, within the address space. -/
def readPointerAt? (m : Machine) (address : UInt64) (index : Nat) : Option UInt64 :=
  let target := address.toNat + index * m.pointerBytes
  if target < addressBound then m.readPointer? (UInt64.ofNat target) else none

/-- The method record at an address. -/
def readRecord? (m : Machine) (address : UInt64) : Option NativeRecord :=
  match m.readPointerAt? address 0, m.readPointerAt? address 1, m.readPointerAt? address 2 with
  | some name, some signature, some pointer =>
    match m.readText? name, m.readText? signature with
    | some name, some signature => some ⟨⟨name, signature⟩, pointer⟩
    | _, _ => none
  | _, _, _ => none

/-- The address of a record in an array of records; addresses wrap around. -/
def recordAddress (m : Machine) (base : UInt64) (index : Nat) : UInt64 :=
  UInt64.ofNat (base.toNat + index * (3 * m.pointerBytes))

end Machine

/-- Methods that are being registered: the registry so far and what there is to report, latest
first. -/
structure Registration where
  natives : Registry
  findings : List Finding := []

namespace Registration

/-- Registers one method. -/
def add (r : Registration) (className : Option String) (record : NativeRecord) : Registration where
  natives := r.natives.register record.key ⟨className, record.pointer⟩
  findings :=
    -- The registry as it is by now decides, so one call may bind a method twice.
    match r.natives.rebound? record.key record.pointer with
    | some previous =>
      .nativeRebind record.key.name record.key.signature className previous record.pointer ::
        r.findings
    | none => r.findings

/-- Registers the methods of `count` records from the given index on, up to the first that cannot
be read. -/
def addRecords (r : Registration) (m : Machine) (className : Option String) (base : UInt64)
    (index count : Nat) : Registration :=
  match count with
  | 0 => r
  | count + 1 =>
    match m.readRecord? (m.recordAddress base index) with
    | none => r
    | some record => (r.add className record).addRecords m className base (index + 1) count

end Registration

namespace Call

/-- Registers the methods of a class. -/
def registerNatives (c : Call) : Effect :=
  match c.args with
  | _ :: base :: count :: _ =>
    let done := Registration.addRecords { natives := c.natives } c.machine (c.classArg? 0)
      base.handle 0 (min count.handle.toNat maxRecords)
    -- Findings were gathered latest first.
    { c.returning [] with natives := done.natives, findings := done.findings.reverse }
  | _ => c.fallback

/-- Drops the methods of a class. -/
def unregisterNatives (c : Call) : Effect :=
  match c.classArg? 0 with
  | some className => { c.returning [] with natives := (c.natives.dropClass className).1 }
  | none => c.fallback

end Call

end NativeFlow
