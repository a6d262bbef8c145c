namespace NativeFlow.Numeral

/-!
# Natural numbers as text

* `ofDigits?`: the number that a run of decimal digits denotes.
* `ofText?`: a number below a bound, written in decimal with an optional plus sign.
* `decimal`, `hexadecimal`: the digits of a number, without leading zeros.
-/

/-- The value of a decimal digit. -/
def digit? (c : Char) : Option Nat :=
  if '0' ≤ c ∧ c ≤ '9' then some (c.toNat - '0'.toNat) else none

/-- The value of a hexadecimal digit, in either case. -/
def hexDigit? (c : Char) : Option Nat :=
  if '0' ≤ c ∧ c ≤ '9' then some (c.toNat - '0'.toNat)
  else if 'a' ≤ c ∧ c ≤ 'f' then some (c.toNat - 'a'.toNat + 10)
  else if 'A' ≤ c ∧ c ≤ 'F' then some (c.toNat - 'A'.toNat + 10)
  else none

/-- Whether a character is a decimal digit. -/
def isDigit (c : Char) : Bool := (digit? c).isSome

/-- The number denoted by a list of digits. -/
def ofDigits (digits : List Char) : Nat :=
  digits.foldl (fun value c => value * 10 + (digit? c).getD 0) 0

/-- The number that a nonempty run of decimal digits denotes. -/
def ofDigits? (digits : List Char) : Option Nat :=
  if digits ≠ [] ∧ digits.all isDigit then some (ofDigits digits) else none

/-- A number below `bound`, written in decimal with an optional plus sign in front. -/
def ofText? (bound : Nat) (text : String) : Option Nat :=
  let digits := match text.toList with
    | '+' :: rest => rest
    | chars => chars
  (ofDigits? digits).filter (· < bound)

/-- The digits of a number in a base of at most sixteen. -/
def digitsIn (base value : Nat) : String := String.ofList (Nat.toDigits base value)

/-- A number in decimal. -/
def decimal (value : Nat) : String := digitsIn 10 value

/-- A number in lower-case hexadecimal. -/
def hexadecimal (value : Nat) : String := digitsIn 16 value

end NativeFlow.Numeral
