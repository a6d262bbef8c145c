import NativeFlow.Call.Basic
import NativeFlow.Text.Utf16

namespace NativeFlow

/-!
# Strings

* `Call.newStringUtf`: the string at an address, in UTF-8 up to a zero byte.
* `Call.newString`: the string of a given number of UTF-16 code units at an address.
-/

namespace Call

/-- The largest number of UTF-16 code units that are decoded. -/
def maxUnits : Nat := 65536

/-- The note of a string that native code made. -/
def nativeText (text : String) : Note := .string { source := .native, value := text }

/-- A string from UTF-8. -/
def newStringUtf (c : Call) : Effect :=
  c.returning? ((c.textArg? 0).map fun text => [nativeText text])

/-- The text of UTF-16 code units at the first argument, as many as the second one says. -/
def unitsText? (c : Call) : Option String :=
  match c.args with
  | start :: count :: _ =>
    if count.handle.toNat ≤ maxUnits then
      (c.machine.memory.read? start.handle.toNat (2 * count.handle.toNat)).map fun bytes =>
        Utf16.decodeLossy (Utf16.unitsOfBytes bytes)
    else none
  | _ => none

/-- A string from UTF-16. -/
def newString (c : Call) : Effect :=
  c.returning? (c.unitsText?.map fun text => [nativeText text])

end Call

end NativeFlow
