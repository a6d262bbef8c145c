namespace NativeFlow.Utf8

/-!
# UTF-8

Byte sequences are read one byte at a time by a small machine (`Decoder`). It yields characters and
marks every ill-formed piece: the longest part of a sequence that could still have been completed,
or a single byte that starts none.

* `decode?`: the text of a byte sequence, when all of it is well formed.
* `decodeLossy`: the text with U+FFFD in place of every ill-formed piece.
* `encode`: the bytes of a text.
-/

/-- A multi-byte sequence that is under way. -/
structure Pending where
  /-- The code point bits read so far. -/
  value : Nat
  /-- How many bytes are still missing. -/
  missing : Nat
  /-- The least byte that may come next. -/
  low : Nat := 0x80
  /-- The greatest byte that may come next. -/
  high : Nat := 0xBF

/-- What a byte at the start of a character announces. -/
inductive Start where
  | char (c : Char)
  | sequence (pending : Pending)
  | illFormed

/-- The role of a byte between characters. The ranges of the second byte leave out overlong forms,
surrogates and everything above U+10FFFF. -/
def start (byte : Nat) : Start :=
  if byte < 0x80 then .char (Char.ofNat byte)
  -- Bytes that go on with a sequence, and two that would start an overlong one.
  else if byte < 0xC2 then .illFormed
  else if byte < 0xE0 then .sequence ⟨byte % 0x20, 1, 0x80, 0xBF⟩
  else if byte < 0xF0 then
    .sequence ⟨byte % 0x10, 2,
      if byte = 0xE0 then 0xA0 else 0x80, if byte = 0xED then 0x9F else 0xBF⟩
  else if byte < 0xF5 then
    .sequence ⟨byte % 0x08, 3,
      if byte = 0xF0 then 0x90 else 0x80, if byte = 0xF4 then 0x8F else 0xBF⟩
  else .illFormed

/-- The machine between two bytes: what it has read, latest first and with `none` for an
ill-formed piece, and the sequence it is in. -/
structure Decoder where
  output : List (Option Char) := []
  pending : Option Pending := none

namespace Decoder

/-- Reads a byte that starts a character. -/
def begin (output : List (Option Char)) (byte : UInt8) : Decoder :=
  match start byte.toNat with
  | .char c => ⟨some c :: output, none⟩
  | .sequence pending => ⟨output, some pending⟩
  | .illFormed => ⟨none :: output, none⟩

/-- Reads one byte. A byte that cannot continue the current sequence ends it as ill formed and
then starts a character of its own. -/
def step (d : Decoder) (byte : UInt8) : Decoder :=
  match d.pending with
  | none => begin d.output byte
  | some p =>
    if p.low ≤ byte.toNat ∧ byte.toNat ≤ p.high then
      let value := p.value * 0x40 + byte.toNat % 0x40
      if p.missing ≤ 1 then ⟨some (Char.ofNat value) :: d.output, none⟩
      else ⟨d.output, some { value, missing := p.missing - 1 }⟩
    else begin (none :: d.output) byte

/-- Everything read, in order; a sequence cut off by the end is ill formed. -/
def finish (d : Decoder) : List (Option Char) :=
  match d.pending with
  | none => d.output.reverse
  | some _ => (none :: d.output).reverse

end Decoder

/-- The characters of a byte sequence, with `none` for every ill-formed piece. -/
def pieces (bytes : List UInt8) : List (Option Char) :=
  (bytes.foldl Decoder.step {}).finish

/-- The text of a byte sequence; `none` when some part of it is ill formed. -/
def decode? (bytes : List UInt8) : Option String :=
  let read := pieces bytes
  if read.all Option.isSome then some (String.ofList (read.filterMap id)) else none

/-- The text of a byte sequence, with U+FFFD for every ill-formed piece. -/
def decodeLossy (bytes : List UInt8) : String :=
  String.ofList ((pieces bytes).map (·.getD '�'))

/-- The bytes of a text. -/
def encode (text : String) : List UInt8 :=
  text.toList.flatMap String.utf8EncodeChar

end NativeFlow.Utf8
