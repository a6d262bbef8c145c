import NativeFlow.Catalog
import NativeFlow.Finding
import NativeFlow.Memory
import NativeFlow.Registry
import NativeFlow.Value

namespace NativeFlow

/-!
# Calls and their effects

* `Call`: all that a function of the interface can see.
* `Effect`: all that it can do, apart from handing out a handle for its result.
* `Call.fallback`: the effect of a call about which nothing can be said.
-/

/-- A call of an interface function: its arguments and what is around it. -/
structure Call where
  machine : Machine
  catalog : Catalog
  natives : Registry
  args : List Value

/-- What a call does. -/
structure Effect where
  /-- Whether the model covers the call. -/
  modeled : Bool
  /-- The arguments after the call. -/
  args : List Value
  /-- The registered native methods after the call. -/
  natives : Registry
  /-- What the call reports. -/
  findings : List Finding := []
  /-- What is known about the result. -/
  notes : List Note := []

namespace Call

/-- The argument at a position. -/
def arg? (c : Call) (index : Nat) : Option Value := c.args[index]?

/-- The text that the argument at a position points at. -/
def textArg? (c : Call) (index : Nat) : Option String :=
  (c.arg? index).bind fun value => c.machine.readText? value.handle

/-- The call changes nothing and nothing is known about its result. -/
def fallback (c : Call) : Effect := { modeled := false, args := c.args, natives := c.natives }

/-- The call changes nothing and its result is known to be as annotated. -/
def returning (c : Call) (notes : List Note) : Effect :=
  { modeled := true, args := c.args, natives := c.natives, notes }

/-- The result is annotated as far as it is known; otherwise nothing is. -/
def returning? (c : Call) : Option (List Note) → Effect
  | some notes => c.returning notes
  | none => c.fallback

end Call

end NativeFlow
