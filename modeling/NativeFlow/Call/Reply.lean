import NativeFlow.Call.Field
import NativeFlow.Call.Member
import NativeFlow.Call.Method
import NativeFlow.Call.Native
import NativeFlow.Call.Object
import NativeFlow.Call.Text
import NativeFlow.Interface.Basic

namespace NativeFlow

/-!
# What a function replies

* `Behaviour.effect`: the effect of a call, by the function's behaviour.
* `Behaviour.reply`: the effect together with the result. A function that returns anything but the
  storage of its argument hands out exactly one handle, whatever its arguments are.
* `Function.call`: the reply of a function; only a reserved slot has none.
-/

/-- Why a call has no reply. -/
inductive Fault where
  | reservedSlot (slot : Nat)
  deriving DecidableEq, Repr

/-- The wording of a fault. -/
def Fault.message : Fault → String
  | .reservedSlot slot => "reserved JNI slot " ++ Numeral.decimal slot ++ " was invoked"

/-- What a call leads to. -/
structure Reply where
  machine : Machine
  effect : Effect
  value? : Option Value

namespace Behaviour

/-- The effect of a call. -/
def effect (behaviour : Behaviour) (c : Call) : Effect :=
  match behaviour with
  -- `Function.call` refuses reserved slots before this is asked.
  | .reserved => c.fallback
  | .unconstrained _ => c.fallback
  | .findClass | .defineClass => c.findClass
  | .objectClass => c.objectClass
  -- Here and for lengths the call is covered, although nothing is known about the result.
  | .superclass => c.returning []
  | .allocObject => c.allocObject
  | .newObject => c.newObject
  | .newReference => c.newReference
  | .methodId _ => c.methodId
  | .fieldId _ => c.fieldId
  | .toReflectedMethod => c.toReflectedMethod
  | .toReflectedField => c.toReflectedField
  | .fromReflectedMethod => c.fromReflectedMethod
  | .fromReflectedField => c.fromReflectedField
  | .invoke _ binding _ => c.invoke binding
  | .getField _ isStatic => c.getField isStatic
  | .setField _ isStatic => c.setField isStatic
  | .newStringUtf => c.newStringUtf
  | .newString => c.newString
  | .storage => c.storage
  | .length => c.returning []
  | .newObjectArray => c.newObjectArray
  | .newPrimitiveArray element => c.newPrimitiveArray element
  | .arrayElement => c.arrayElement
  | .registerNatives => c.registerNatives
  | .unregisterNatives => c.unregisterNatives

/-- The value that a call returns as it is, without a new handle. -/
def passedOn? (behaviour : Behaviour) (args : List Value) : Option Value :=
  if behaviour = .storage then args.head? else none

/-- The reply to a call. -/
def reply (behaviour : Behaviour) (c : Call) : Reply :=
  let effect := behaviour.effect c
  match behaviour.passedOn? c.args with
  | some value => { machine := c.machine, effect, value? := some value }
  | none =>
    if behaviour.returns = .void then { machine := c.machine, effect, value? := none }
    else
      -- A result gets a handle also where nothing is known about it.
      let bits := behaviour.returns.width c.machine.pointerBits
      let (handle, machine) := c.machine.allocate bits
      { machine, effect, value? := some { handle, bits, notes := effect.notes } }

end Behaviour

/-- Calls a function of the interface. -/
def Function.call (f : Function) (c : Call) : Except Fault Reply :=
  if f.behaviour = .reserved then .error (.reservedSlot f.slot) else .ok (f.behaviour.reply c)

end NativeFlow
