namespace NativeFlow.Blank

/-!
# White space

The characters with the Unicode property White_Space, and the division of a line into the fields
that stand between them.

* `isBlank`: the property, as a table.
* `fields`: the maximal runs of other characters, in order.
-/

/-- The 25 characters with the property White_Space. -/
def isBlank (c : Char) : Bool :=
  let n := c.toNat
  (0x09 ≤ n && n ≤ 0x0D) || n == 0x20 || n == 0x85 || n == 0xA0 || n == 0x1680 ||
    (0x2000 ≤ n && n ≤ 0x200A) || n == 0x2028 || n == 0x2029 || n == 0x202F || n == 0x205F ||
    n == 0x3000

/-- A line partly divided: the finished fields and the current one, both latest first. -/
structure Division where
  done : List String := []
  current : List Char := []

namespace Division

/-- Ends the current field, unless it is empty. -/
def close (d : Division) : Division :=
  match d.current with
  | [] => d
  | chars => ⟨String.ofList chars.reverse :: d.done, []⟩

/-- Takes in one character. -/
def step (d : Division) (c : Char) : Division :=
  if isBlank c then d.close else { d with current := c :: d.current }

end Division

/-- The fields of a line: its maximal runs of characters that are not white space. -/
def fields (line : String) : List String :=
  (line.toList.foldl Division.step {}).close.done.reverse

end NativeFlow.Blank
