import NativeFlow.SortedMap
import NativeFlow.Text.Utf8

namespace NativeFlow

/-!
# Memory and handles

* `Memory`: byte regions at 64-bit addresses.
* `Memory.read?`, `Memory.readText?`: bytes at an address, and the text up to the next zero byte.
* `Machine`: the host of native code. It has a memory image, the width of a pointer, and a supply of
  handles.
* `Machine.mapWords`, `Machine.readPointer?`: pointer-wide words, low byte first.
* `Machine.allocate`: a handle that has not been given out before.
-/

/-- One past the largest address. -/
def addressBound : Nat := 0x10000000000000000

/-- The longest text that is read from memory, in bytes. -/
def maxTextLength : Nat := 4096

/-- Byte regions by the address they start at. -/
structure Memory where
  regions : SortedMap UInt64 (Array UInt8) := .empty

namespace Memory

/-- Maps bytes at an address. A region that starts there gives way. -/
def map (m : Memory) (address : UInt64) (bytes : List UInt8) : Memory :=
  ⟨m.regions.insert address bytes.toArray⟩

/-- Maps a text with a zero byte behind it. -/
def mapText (m : Memory) (address : UInt64) (text : String) : Memory :=
  m.map address (Utf8.encode text ++ [0])

/-- The region that an address is looked for in: of those that start at or below it, the last. -/
def regionBelow? (m : Memory) (address : Nat) : Option (UInt64 × Array UInt8) :=
  (m.regions.entries.takeWhile fun region => region.1.toNat ≤ address).getLast?

/-- The `length` bytes at an address, if one region holds all of them. -/
def read? (m : Memory) (address : Nat) (length : Nat) : Option (List UInt8) :=
  match m.regionBelow? address with
  | none => none
  | some (start, bytes) =>
    -- A longer region that starts further below is not asked, even if it reaches the address.
    let offset := address - start.toNat
    if offset + length ≤ bytes.size then some (bytes.extract offset (offset + length)).toList
    else none

/-- The byte at an address. -/
def byte? (m : Memory) (address : Nat) : Option UInt8 :=
  match m.regionBelow? address with
  | none => none
  | some (start, bytes) => bytes[address - start.toNat]?

/-- The bytes from an address up to the next zero byte, if it is among the next `count` bytes and
below the end of the address space. Those already read come latest first. -/
def readUntilZero? (m : Memory) (address : Nat) (count : Nat) (done : List UInt8) :
    Option (List UInt8) :=
  match count with
  | 0 => none
  | count + 1 =>
    if address < addressBound then
      match m.byte? address with
      | none => none
      | some 0 => some done.reverse
      | some byte => m.readUntilZero? (address + 1) count (byte :: done)
    else none

/-- The text at an address, up to a zero byte. A text of more than `maxTextLength` bytes is not
read at all. -/
def readText? (m : Memory) (address : UInt64) : Option String :=
  (m.readUntilZero? address.toNat (maxTextLength + 1) []).map Utf8.decodeLossy

end Memory

/-- The host that native code runs on, as far as calls can see it. -/
structure Machine where
  pointerBits : Nat
  memory : Memory := {}
  /-- How many handles of at least 32 bits have been given out. -/
  wideHandles : Nat := 0
  /-- How many narrower ones. -/
  narrowHandles : Nat := 0

namespace Machine

/-- The first handle of at least 32 bits. -/
def firstHandle : Nat := 0x70000000

/-- The number of bytes of a pointer. -/
def pointerBytes (m : Machine) : Nat := m.pointerBits / 8

/-- The eight bytes of a word, low byte first. -/
def bytesOfWord (word : UInt64) : List UInt8 :=
  (List.range 8).map fun i => UInt8.ofNat (word.toNat / Nat.pow 256 i)

/-- The number whose bytes are given, low byte first. -/
def wordOfBytes (bytes : List UInt8) : UInt64 :=
  UInt64.ofNat (bytes.foldr (fun byte rest => byte.toNat + 256 * rest) 0)

/-- Maps bytes at an address. -/
def map (m : Machine) (address : UInt64) (bytes : List UInt8) : Machine :=
  { m with memory := m.memory.map address bytes }

/-- Maps a text with a zero byte behind it. -/
def mapText (m : Machine) (address : UInt64) (text : String) : Machine :=
  { m with memory := m.memory.mapText address text }

/-- Maps words at an address, each cut to the width of a pointer. -/
def mapWords (m : Machine) (address : UInt64) (words : List UInt64) : Machine :=
  m.map address (words.flatMap fun word => (bytesOfWord word).take m.pointerBytes)

/-- The pointer at an address, of which the low eight bytes count. -/
def readPointer? (m : Machine) (address : UInt64) : Option UInt64 :=
  (m.memory.read? address.toNat m.pointerBytes).map fun bytes => wordOfBytes (bytes.take 8)

/-- The text at an address. -/
def readText? (m : Machine) (address : UInt64) : Option String := m.memory.readText? address

/-- A new handle of the given width. Wide handles count up from `firstHandle`, narrow ones count
from one and wrap at their width. -/
def allocate (m : Machine) (bits : Nat) : UInt64 × Machine :=
  if 32 ≤ bits then
    (UInt64.ofNat (firstHandle + m.wideHandles), { m with wideHandles := m.wideHandles + 1 })
  else
    (UInt64.ofNat ((1 + m.narrowHandles) % Nat.pow 2 bits),
      { m with narrowHandles := m.narrowHandles + 1 })

end Machine

end NativeFlow
