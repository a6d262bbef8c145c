import NativeFlow.Json.Basic
import NativeFlow.Text.Utf16

namespace NativeFlow

/-!
# Reading JSON

A document is read from left to right and refused at the first place where it goes wrong, either as
JSON or as a document of the wanted shape. What follows the value that was asked for is left unread.

* `ReadError`: why a document is refused, with the path to the place for one of the wrong shape.
* `Reader`: a reader of some kind of value from the front of a text.
* `Reader.value`: any value, up to a given depth of nesting.
* `Reader.skip`: any value, to any depth, without keeping it.
* `Reader.array`, `Reader.object`, `Reader.text`, `Reader.natural`, `Reader.optional`: values of one
  kind; a value of another kind is refused as soon as its kind is certain.
-/

/-- One step from a value to a part of it. -/
inductive PathStep where
  | key (name : String)
  | index (position : Nat)
  deriving DecidableEq, Repr

/-- Why a document is refused. -/
inductive ReadError where
  /-- The text ends before the document does. -/
  | ended
  /-- The text is not JSON. -/
  | malformed
  /-- The part of the document at `path` is not what it should be. -/
  | unexpected (path : List PathStep)
  deriving DecidableEq, Repr

/-- Reads a value from the front of a text and leaves the rest. -/
abbrev Reader (α : Type) := StateT (List Char) (Except ReadError) α

namespace Reader

variable {α σ : Type}

/-- Refuses the document. -/
def refuse (error : ReadError) : Reader α := throw error

/-- Refuses the document for the value at hand. -/
def mismatch : Reader α := refuse (.unexpected [])

/-- The next character, which stays unread. -/
def peek? : Reader (Option Char) := do return (← get).head?

/-- Drops the next character. -/
def advance : Reader Unit := modify List.tail

/-- The next character, which is read. -/
def next? : Reader (Option Char) := do
  let c ← peek?
  advance
  return c

/-- The white space of JSON. -/
def isSpace (c : Char) : Bool := c == ' ' || c == '\n' || c == '\t' || c == '\r'

/-- The next character after white space; it stays unread, the white space does not. -/
def token? : Reader (Option Char) := do
  modify (·.dropWhile isSpace)
  peek?

/-- Runs a reader on a part of the value at hand. -/
def within (step : PathStep) (reader : Reader α) : Reader α := fun text =>
  match reader text with
  | .error (.unexpected path) => .error (.unexpected (step :: path))
  | result => result

/-- Repeats `step` until it yields a result. Every round reads something, so the text itself is
long enough to count the rounds; when the count runs out the text has ended too. -/
def repeatUntil (step : σ → Reader (σ ⊕ α)) (state : σ) : Reader α := fun text =>
  go text state text
where
  /-- One round for every element of `clock`. -/
  go : (clock : List Char) → σ → Reader α
    | [], _ => refuse .ended
    | _ :: clock, state => fun text =>
      match step state text with
      | .ok (.inl state, rest) => go clock state rest
      | .ok (.inr result, rest) => .ok (result, rest)
      | .error error => .error error

/-! ### Words and numbers -/

/-- The letters of a word. -/
def word : List Char → Reader Unit
  | [] => pure ()
  | expected :: rest => do
    match ← next? with
    | none => refuse .ended
    | some c => if c = expected then word rest else refuse .malformed

/-- A number as it is written. -/
structure Written where
  negative : Bool
  whole : List Char
  fraction : Option (List Char)
  exponent : Option (Bool × List Char)

namespace Written

/-- The largest natural number a document can hold, plus one. -/
def bound : Nat := 0x10000000000000000

/-- The digits of a number as `significand` times a power of ten. -/
structure Scaled where
  significand : Nat := 0
  power : Int := 0
  /-- Whether a digit has been left out because the significand was full. -/
  full : Bool := false

/-- Takes in a digit before the point. Once the significand is full, digits only count. -/
def Scaled.pushWhole (s : Scaled) (c : Char) : Scaled :=
  let wider := s.significand * 10 + (Numeral.digit? c).getD 0
  if s.full ∨ bound ≤ wider then { s with power := s.power + 1, full := true }
  else { s with significand := wider }

/-- Takes in a digit after the point. Once the significand is full, digits are dropped. -/
def Scaled.pushFraction (s : Scaled) (c : Char) : Scaled :=
  let wider := s.significand * 10 + (Numeral.digit? c).getD 0
  if s.full ∨ bound ≤ wider then { s with full := true }
  else { s with significand := wider, power := s.power - 1 }

/-- The value of a number, without its sign. -/
def scaled (w : Written) : Scaled :=
  let whole := w.whole.foldl Scaled.pushWhole {}
  -- Behind the point there may be room again for a digit that is small enough.
  let all := (w.fraction.getD []).foldl Scaled.pushFraction { whole with full := false }
  match w.exponent with
  | none => all
  | some (negative, digits) =>
    let shift : Int := Numeral.ofDigits digits
    { all with power := if negative then all.power - shift else all.power + shift }

/-- A number rounded to 53 significant bits, ties to even. -/
def roundToDouble (n : Nat) : Nat :=
  let drop := n.log2 - 52
  let unit := Nat.pow 2 drop
  let quotient := n / unit
  let rest := 2 * (n % unit)
  if rest > unit ∨ (rest = unit ∧ quotient % 2 = 1) then (quotient + 1) * unit else quotient * unit

/-- Whether a number fits the range of double precision: its significand and its power of ten, each
rounded, have a product that does not round to infinity. -/
def inRange (w : Written) : Bool :=
  -- Zero is in range with any exponent.
  let s := w.scaled
  s.significand = 0 || s.power < 0 ||
    (s.power ≤ 308 &&
      roundToDouble s.significand * roundToDouble (Nat.pow 10 s.power.toNat) <
        Nat.pow 2 1024 - Nat.pow 2 970)

/-- The value kept of a number: itself if it is written as a natural number below the bound. -/
def toJson (w : Written) : Json :=
  match w.negative, w.fraction, w.exponent with
  | false, none, none =>
    let value := Numeral.ofDigits w.whole
    if value < bound then .natural value else .otherNumber
  | _, _, _ => .otherNumber

end Written

/-- The digits at the front of the text. -/
def digits : Reader (List Char) := fun text =>
  .ok (text.takeWhile Numeral.isDigit, text.dropWhile Numeral.isDigit)

/-- At least one digit; `atEnd` tells how a text is refused that ends instead. -/
def someDigits (atEnd : ReadError) : Reader (List Char) := do
  let run ← digits
  if run = [] then
    match ← peek? with
    | none => refuse atEnd
    | some _ => refuse .malformed
  return run

/-- A number as it is written; no digit may follow a leading zero. -/
def written (atEnd : ReadError) : Reader Written := do
  let negative := (← peek?) == some '-'
  if negative then advance
  let whole ← someDigits atEnd
  if whole.head? = some '0' ∧ whole.length > 1 then refuse .malformed
  let mut fraction := none
  if (← peek?) == some '.' then
    advance
    fraction := some (← someDigits atEnd)
  let mut exponent := none
  let mark ← peek?
  if mark == some 'e' || mark == some 'E' then
    advance
    let sign ← peek?
    if sign == some '+' || sign == some '-' then advance
    exponent := some (sign == some '-', ← someDigits atEnd)
  return { negative, whole, fraction, exponent }

/-- A number within range. -/
def number : Reader Json := do
  let w ← written .ended
  if w.inRange then return w.toJson else refuse .malformed

/-! ### Strings -/

/-- Four hexadecimal digits. Fewer than four bytes cannot hold them, whatever they are. -/
def hexUnit : Reader Nat := fun text =>
  match text with
  | a :: b :: c :: d :: rest =>
    match Numeral.hexDigit? a, Numeral.hexDigit? b, Numeral.hexDigit? c, Numeral.hexDigit? d with
    | some a, some b, some c, some d => .ok (((a * 16 + b) * 16 + c) * 16 + d, rest)
    | _, _, _, _ => .error .malformed
  | short =>
    if short.foldl (fun size c => size + c.utf8Size) 0 < 4 then .error .ended else .error .malformed

/-- One given character. -/
def exactly (c : Char) : Reader Unit := do
  match ← next? with
  | none => refuse .ended
  | some d => if d = c then pure () else refuse .malformed

/-- The letters that stand for one character after a backslash. -/
def simpleEscape? : Char → Option Char
  | '"' => some '"'
  | '\\' => some '\\'
  | '/' => some '/'
  | 'b' => some '\x08'
  | 'f' => some '\x0c'
  | 'n' => some '\n'
  | 'r' => some '\r'
  | 't' => some '\t'
  | _ => none

/-- The character of an escape by code units; surrogates only come in pairs. -/
def unicodeEscape : Reader Char := do
  let unit ← hexUnit
  if Utf16.isTrailing unit then refuse .malformed
  if Utf16.isLeading unit then
    exactly '\\'
    exactly 'u'
    let trailing ← hexUnit
    if Utf16.isTrailing trailing then return Utf16.joinPair unit trailing else refuse .malformed
  return Char.ofNat unit

/-- The character of an escape whose backslash has been read. -/
def escaped : Reader Char := do
  match ← next? with
  | none => refuse .ended
  | some 'u' => unicodeEscape
  | some c =>
    match simpleEscape? c with
    | some d => return d
    | none => refuse .malformed

/-- The string whose opening quote has been read. -/
def stringBody : Reader String := repeatUntil step []
where
  /-- Reads one character; the characters so far are kept latest first. -/
  step (chars : List Char) : Reader (List Char ⊕ String) := do
    match ← next? with
    | none => refuse .ended
    | some '"' => return .inr (String.ofList chars.reverse)
    | some '\\' => return .inl ((← escaped) :: chars)
    | some c => if c.toNat < 0x20 then refuse .malformed else return .inl (c :: chars)

/-- Skips a string whose opening quote has been read; surrogates need no partner here. -/
def skipString : Reader Unit := repeatUntil step ()
where
  /-- Skips one character. -/
  step (_ : Unit) : Reader (Unit ⊕ Unit) := do
    match ← next? with
    | none => refuse .ended
    | some '"' => return .inr ()
    | some '\\' =>
      match ← next? with
      | none => refuse .ended
      | some 'u' => do
        let _ ← hexUnit
        return .inl ()
      | some c => if (simpleEscape? c).isSome then return .inl () else refuse .malformed
    | some c => if c.toNat < 0x20 then refuse .malformed else return .inl ()

/-! ### Arrays and objects -/

/-- Goes on to the next item of an array; `false` at its end, which is read. -/
def nextItem (first : Bool) : Reader Bool := do
  match ← token? with
  | none => refuse .ended
  | some ']' => do
    advance
    return false
  | some c =>
    if first then return true
    if c ≠ ',' then refuse .malformed
    advance
    match ← token? with
    | none => refuse .ended
    -- A comma has to be followed by an item.
    | some ']' => refuse .malformed
    | some _ => return true

/-- The items of an array whose opening bracket has been read, each at its position. -/
def items (item : Reader α) : Reader (List α) := repeatUntil step (0, [])
where
  /-- Reads one item; those so far are kept latest first. -/
  step (state : Nat × List α) : Reader ((Nat × List α) ⊕ List α) := do
    let (position, done) := state
    if ← nextItem (position == 0) then
      let value ← within (.index position) item
      return .inl (position + 1, value :: done)
    else return .inr done.reverse

/-- The name of the next member of an object; `none` at its end, which is read. -/
def nextName (first : Bool) : Reader (Option String) := do
  match ← token? with
  | none => refuse .ended
  | some '\x7d' => do
    advance
    return none
  | some c =>
    if first then
      if c ≠ '"' then refuse .malformed
    else
      if c ≠ ',' then refuse .malformed
      advance
      match ← token? with
      | none => refuse .ended
      | some c => if c ≠ '"' then refuse .malformed
    advance
    return some (← stringBody)

/-- The colon between a member's name and its value. -/
def colon : Reader Unit := do
  match ← token? with
  | none => refuse .ended
  | some c => if c = ':' then advance else refuse .malformed

/-- The members of an object whose opening brace has been read. What has been gathered so far goes
through `member`, which is given the name and reads on from behind it. -/
def members (member : σ → String → Reader σ) (start : σ) : Reader σ :=
  repeatUntil step (true, start)
where
  /-- Reads one member. -/
  step (state : Bool × σ) : Reader ((Bool × σ) ⊕ σ) := do
    let (first, gathered) := state
    match ← nextName first with
    | none => return .inr gathered
    | some name => return .inl (false, ← member gathered name)

/-! ### Any value -/

/-- Any value in which at most `depth` arrays and objects are nested. -/
def value (depth : Nat) : Reader Json := do
  match ← token? with
  | none => refuse .ended
  | some 'n' => do
    advance
    word ['u', 'l', 'l']
    return .null
  | some 't' => do
    advance
    word ['r', 'u', 'e']
    return .bool true
  | some 'f' => do
    advance
    word ['a', 'l', 's', 'e']
    return .bool false
  | some '"' => do
    advance
    return .string (← stringBody)
  | some '[' =>
    match depth with
    -- The limit is noticed at the bracket, before anything inside is read.
    | 0 => refuse .malformed
    | depth + 1 => do
      advance
      return .array (← items (value depth))
  | some '\x7b' =>
    match depth with
    | 0 => refuse .malformed
    | depth + 1 => do
      advance
      let gathered ← members (fun gathered name => do
        colon
        return (name, ← value depth) :: gathered) []
      return .object gathered.reverse
  | some c => if c == '-' || Numeral.isDigit c then number else refuse .malformed

/-- An array or object that is being skipped. -/
inductive Enclosing where
  | array
  | object
  deriving DecidableEq

/-- Skips a value of any depth; nothing is kept of it, so its numbers may have any size and its
surrogates need no partner. -/
def skip : Reader Unit := do
  match ← skipOpening [] with
  | .inl state => repeatUntil step state
  | .inr () => pure ()
where
  /-- Skips the name of a member and its colon. -/
  skipName : Reader Unit := do
    match ← token? with
    | none => refuse .ended
    | some '"' => do
      advance
      skipString
      colon
    | some _ => refuse .malformed
  /-- Skips a value up to the start of its first part, if it has parts. The arrays and objects
  around the current place come innermost first, with whether a part of it has been skipped. -/
  skipOpening (around : List Enclosing) : Reader ((Bool × List Enclosing) ⊕ Unit) := do
    match ← token? with
    | none => refuse .ended
    | some 'n' => do
      advance
      word ['u', 'l', 'l']
      after around
    | some 't' => do
      advance
      word ['r', 'u', 'e']
      after around
    | some 'f' => do
      advance
      word ['a', 'l', 's', 'e']
      after around
    | some '"' => do
      advance
      skipString
      after around
    | some '[' => do
      advance
      return .inl (false, .array :: around)
    | some '\x7b' => do
      advance
      return .inl (false, .object :: around)
    | some c =>
      if c == '-' || Numeral.isDigit c then do
        let _ ← written .malformed
        after around
      else refuse .malformed
  /-- What is left to do after a value. -/
  after : List Enclosing → Reader ((Bool × List Enclosing) ⊕ Unit)
    | [] => return .inr ()
    | around => return .inl (true, around)
  /-- Skips the next part of the innermost array or object, or leaves it. -/
  step : Bool × List Enclosing → Reader ((Bool × List Enclosing) ⊕ Unit)
    | (_, []) => return .inr ()
    | (started, innermost :: around) => do
      match ← token? with
      | none => refuse .ended
      | some c =>
        if c = (match innermost with | .array => ']' | .object => '\x7d') then
          advance
          after around
        else
          if started then
            if c = ',' then advance else refuse .malformed
          if innermost = .object then skipName
          skipOpening (innermost :: around)

/-! ### Values of one kind -/

/-- Refuses the value at hand for its kind. A value without parts is read first, so that it is
refused as malformed if it is. -/
def otherKind : Reader α := do
  match ← token? with
  | none => refuse .ended
  | some '[' => mismatch
  | some '\x7b' => mismatch
  | some _ => do
    let _ ← value 0
    mismatch

/-- A natural number below `bound`. -/
def natural (bound : Nat) : Reader Nat := do
  match ← token? with
  | none => refuse .ended
  | some c =>
    if c == '-' || Numeral.isDigit c then
      match (← number).natural? bound with
      | some n => return n
      | none => mismatch
    else otherKind

/-- A string. -/
def text : Reader String := do
  match ← token? with
  | some '"' => do
    advance
    stringBody
  | _ => otherKind

/-- An array of items of one kind. -/
def array (item : Reader α) : Reader (List α) := do
  match ← token? with
  | some '[' => do
    advance
    items item
  | _ => otherKind

/-- An object, read member by member. -/
def object (member : σ → String → Reader σ) (start : σ) : Reader σ := do
  match ← token? with
  | some '\x7b' => do
    advance
    members member start
  | _ => otherKind

/-- A value or `null`. -/
def optional (reader : Reader α) : Reader (Option α) := do
  match ← token? with
  | some 'n' => do
    advance
    word ['u', 'l', 'l']
    return none
  | _ => return some (← reader)

end Reader

end NativeFlow
