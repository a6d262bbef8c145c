import NativeFlow.Kind

namespace NativeFlow

/-!
# Functions of the native interface

* `Behaviour`: the handler of a function, that is, what the function does. Functions that share
  their meaning share a handler.
* `Behaviour.returns`: the kind of value that a function hands back.
* `Function`: an entry of the function table.
-/

/-- How a method call finds its target, and with it the layout of its arguments. -/
inductive Binding where
  /-- An object, a method id and the arguments. -/
  | virtual
  /-- An object, a class, a method id and the arguments. -/
  | nonvirtual
  /-- A class, a method id and the arguments. -/
  | static
  deriving DecidableEq, Repr

namespace Binding

/-- The position of the method id. -/
def methodIndex : Binding → Nat
  | .virtual | .static => 1
  | .nonvirtual => 2

/-- The position of the first argument of the method itself. -/
def firstArgument (binding : Binding) : Nat := binding.methodIndex + 1

/-- Whether the call has a receiver. -/
def hasReceiver : Binding → Bool
  | .virtual | .nonvirtual => true
  | .static => false

end Binding

/-- How the arguments of a method are passed, which makes no difference to what they mean. -/
inductive Passing where
  | variadic
  | vaList
  | array
  deriving DecidableEq, Repr

/-- What a function of the interface does: the handler that its calls go to. -/
inductive Behaviour where
  /-- A slot that must not be called. -/
  | reserved
  /-- Nothing is known of the result but its kind. -/
  | unconstrained (kind : Kind)
  | findClass
  | defineClass
  | objectClass
  | superclass
  | allocObject
  | newObject
  /-- A new reference to the same object. -/
  | newReference
  | methodId (isStatic : Bool)
  | fieldId (isStatic : Bool)
  | toReflectedMethod
  | toReflectedField
  | fromReflectedMethod
  | fromReflectedField
  | invoke (returns : Kind) (binding : Binding) (passing : Passing)
  | getField (kind : Kind) (isStatic : Bool)
  | setField (kind : Kind) (isStatic : Bool)
  | newStringUtf
  | newString
  /-- The storage of the first argument. -/
  | storage
  | length
  | newObjectArray
  | newPrimitiveArray (element : Primitive)
  | arrayElement
  | registerNatives
  | unregisterNatives
  deriving DecidableEq, Repr

/-- The kind of value that a function hands back. -/
def Behaviour.returns : Behaviour → Kind
  | .reserved => .void
  | .unconstrained kind => kind
  | .invoke returns _ _ => returns
  | .getField kind _ => kind
  | .setField _ _ => .void
  | .newStringUtf | .newString => .string
  | .newObjectArray | .newPrimitiveArray _ => .array
  | .length | .registerNatives | .unregisterNatives => .primitive .int
  | _ => .object

/-- An entry of the function table. -/
structure Function where
  slot : Nat
  name : String
  /-- The linker symbol of the function; reserved slots have none. -/
  symbol : Option String
  behaviour : Behaviour
  deriving DecidableEq, Repr

end NativeFlow
