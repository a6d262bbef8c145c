namespace NativeFlow.Utf16

/-!
# UTF-16

Code units are paired into characters by a machine that remembers at most one leading surrogate
(`Decoder`). An unpaired surrogate reads as U+FFFD.

* `decodeLossy`: the text of a sequence of code units.
* `unitsOfBytes`: the code units of a little-endian byte sequence.
-/

/-- A unit that opens a surrogate pair. -/
def isLeading (unit : Nat) : Bool := 0xD800 ≤ unit && unit < 0xDC00

/-- A unit that closes a surrogate pair. -/
def isTrailing (unit : Nat) : Bool := 0xDC00 ≤ unit && unit < 0xE000

/-- The character that a surrogate pair stands for. -/
def joinPair (leading trailing : Nat) : Char :=
  Char.ofNat (0x10000 + (leading - 0xD800) * 0x400 + (trailing - 0xDC00))

/-- The machine between two units: the characters read, latest first, and a leading surrogate that
still waits for its partner. -/
structure Decoder where
  output : List Char := []
  leading : Option Nat := none

namespace Decoder

/-- Reads a unit that starts a character. -/
def begin (output : List Char) (unit : Nat) : Decoder :=
  if isLeading unit then ⟨output, some unit⟩
  else if isTrailing unit then ⟨'�' :: output, none⟩
  else ⟨Char.ofNat unit :: output, none⟩

/-- Reads one unit. -/
def step (d : Decoder) (unit : Nat) : Decoder :=
  match d.leading with
  | none => begin d.output unit
  | some leading =>
    if isTrailing unit then ⟨joinPair leading unit :: d.output, none⟩
    else begin ('�' :: d.output) unit

/-- Everything read, in order; a leading surrogate at the end is unpaired. -/
def finish (d : Decoder) : List Char :=
  match d.leading with
  | none => d.output.reverse
  | some _ => ('�' :: d.output).reverse

end Decoder

/-- The text of a sequence of code units, with U+FFFD for every unpaired surrogate. -/
def decodeLossy (units : List Nat) : String :=
  String.ofList (units.foldl Decoder.step {}).finish

/-- The code units of a byte sequence, low byte first; an odd last byte is dropped. -/
def unitsOfBytes (bytes : List UInt8) : List Nat :=
  go [] bytes
where
  /-- Takes two bytes at a time, latest unit first. -/
  go (units : List Nat) : List UInt8 → List Nat
    | low :: high :: rest => go ((low.toNat + 0x100 * high.toNat) :: units) rest
    | _ => units.reverse

end NativeFlow.Utf16
