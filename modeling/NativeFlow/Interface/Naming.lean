import NativeFlow.Interface.Basic

namespace NativeFlow

/-!
# Names of functions

What a function does can be read off its name. Functions that call methods, that access fields and
that work on arrays of a primitive type are named by parts: what is done, to what, and with which
type. All others go by their names as they are.

* `Primitive.word`, `Kind.word`, `Binding.word`, `Passing.ending`: the parts of names.
* `NamePart.front?`, `NamePart.back?`: take a part off the beginning or the end of a name.
* `Behaviour.ofCallName?`, `Behaviour.ofFieldName?`, `Behaviour.ofArrayName?`: the families.
* `Behaviour.ofName?`: what the function with a name does. The function table agrees with it
  (`Interface.ofName?_name`).
-/

/-! ### Parts of names -/

/-- A primitive type in the names of functions. -/
def Primitive.word : Primitive → String
  | .boolean => "Boolean"
  | .byte => "Byte"
  | .char => "Char"
  | .short => "Short"
  | .int => "Int"
  | .long => "Long"
  | .float => "Float"
  | .double => "Double"

/-- The kind of a result in the names of functions. -/
def Kind.word : Kind → String
  | .void => "Void"
  | .primitive type => type.word
  | .object => "Object"
  | .string => "String"
  | .array => "Array"

/-- A binding in the names of functions. -/
def Binding.word : Binding → String
  | .virtual => ""
  | .nonvirtual => "Nonvirtual"
  | .static => "Static"

/-- What the name of a function ends with for the way in which arguments are passed. -/
def Passing.ending : Passing → String
  | .variadic => ""
  | .vaList => "V"
  | .array => "A"

/-- The kinds that stand in names. Strings and arrays go by `Kind.object` there. -/
def Kind.worded : List Kind := .void :: .object :: Primitive.all.map .primitive

namespace NamePart

/-- The bytes of a name or of a part of one. -/
def bytes (name : String) : List UInt8 := name.toByteArray.data.toList

/-- What follows the given part at the beginning of a name. -/
def front? (part : String) (name : List UInt8) : Option (List UInt8) :=
  (bytes part).isPrefixOf? name

/-- What comes before the given part at the end of a name. -/
def back? (part : String) (name : List UInt8) : Option (List UInt8) :=
  (bytes part).isSuffixOf? name

end NamePart

open NamePart

/-- The primitive type that a part of a name stands for. -/
def Primitive.ofWord? (word : List UInt8) : Option Primitive :=
  all.find? fun type => bytes type.word = word

/-- The kind that a part of a name stands for. -/
def Kind.ofWord? (word : List UInt8) : Option Kind :=
  worded.find? fun kind => bytes kind.word = word

/-- The binding at the beginning of a name, and what follows it. A name without one means
`Binding.virtual`. -/
def Binding.split (name : List UInt8) : Binding × List UInt8 :=
  match front? "Nonvirtual" name, front? "Static" name with
  | some rest, _ => (.nonvirtual, rest)
  | none, some rest => (.static, rest)
  | none, none => (.virtual, name)

/-- The way in which arguments are passed, at the end of the name of a function that calls methods,
and what comes before it. -/
def Passing.split? (name : List UInt8) : Option (List UInt8 × Passing) :=
  match back? "MethodV" name, back? "MethodA" name with
  | some word, _ => some (word, .vaList)
  | none, some word => some (word, .array)
  | none, none => (back? "Method" name).map fun word => (word, .variadic)

namespace Behaviour

/-! ### Families -/

/-- The functions that call methods, such as `CallStaticIntMethodV`. -/
def ofCallName? (name : List UInt8) : Option Behaviour := do
  let rest ← front? "Call" name
  let (binding, rest) := Binding.split rest
  let (word, passing) ← Passing.split? rest
  return .invoke (← Kind.ofWord? word) binding passing

/-- The functions that access fields, such as `GetStaticIntField`. There are no fields of the kind
`Kind.void`. -/
def ofFieldName? (name : List UInt8) : Option Behaviour := do
  let (isSet, rest) ←
    ((front? "Get" name).map fun rest => (false, rest)).or
      ((front? "Set" name).map fun rest => (true, rest))
  let (isStatic, rest) := match front? "Static" rest with
    | some rest => (true, rest)
    | none => (false, rest)
  -- What is left in front of `Field` is the kind.
  let kind ← Kind.ofWord? (← back? "Field" rest)
  if kind = .void then none
  else some (if isSet then .setField kind isStatic else .getField kind isStatic)

/-- The functions that make arrays of a primitive type, hand out or release their elements, and copy
parts of them, such as `GetIntArrayElements`. -/
def ofArrayName? (name : List UInt8) : Option Behaviour :=
  match (front? "New" name).bind (back? "Array"),
    (front? "Get" name).bind (back? "ArrayElements") with
  | some word, _ => (Primitive.ofWord? word).map .newPrimitiveArray
  | none, some word => (Primitive.ofWord? word).map fun _ => .storage
  | none, none =>
    -- Elements are given back, or a part of them is copied: there is no result.
    let word? := ((front? "Release" name).bind (back? "ArrayElements")).or
      (((front? "Get" name).or (front? "Set" name)).bind (back? "ArrayRegion"))
    (word?.bind Primitive.ofWord?).map fun _ => .unconstrained .void

/-! ### Single functions -/

/-- The functions that have names of their own. -/
def ofOwnName? : String → Option Behaviour
  | "reserved0" | "reserved1" | "reserved2" | "reserved3" => some .reserved
  | "FindClass" => some .findClass
  | "DefineClass" => some .defineClass
  | "GetObjectClass" => some .objectClass
  | "GetSuperclass" => some .superclass
  | "AllocObject" => some .allocObject
  | "NewObject" | "NewObjectV" | "NewObjectA" => some .newObject
  | "NewGlobalRef" | "NewLocalRef" | "NewWeakGlobalRef" | "PopLocalFrame" => some .newReference
  | "GetMethodID" => some (.methodId false)
  | "GetStaticMethodID" => some (.methodId true)
  | "GetFieldID" => some (.fieldId false)
  | "GetStaticFieldID" => some (.fieldId true)
  | "ToReflectedMethod" => some .toReflectedMethod
  | "ToReflectedField" => some .toReflectedField
  | "FromReflectedMethod" => some .fromReflectedMethod
  | "FromReflectedField" => some .fromReflectedField
  | "NewStringUTF" => some .newStringUtf
  | "NewString" => some .newString
  | "GetStringChars" | "GetStringUTFChars" | "GetStringCritical" | "GetPrimitiveArrayCritical" =>
    some .storage
  | "GetStringLength" | "GetStringUTFLength" | "GetArrayLength" => some .length
  | "NewObjectArray" => some .newObjectArray
  | "GetObjectArrayElement" => some .arrayElement
  | "RegisterNatives" => some .registerNatives
  | "UnregisterNatives" => some .unregisterNatives
  | "GetVersion" | "Throw" | "ThrowNew" | "PushLocalFrame" | "EnsureLocalCapacity"
  | "MonitorEnter" | "MonitorExit" | "GetJavaVM" | "GetObjectRefType" =>
    some (.unconstrained (.primitive .int))
  | "IsAssignableFrom" | "IsSameObject" | "IsInstanceOf" | "ExceptionCheck" =>
    some (.unconstrained (.primitive .boolean))
  | "ExceptionOccurred" | "NewDirectByteBuffer" | "GetDirectBufferAddress" =>
    some (.unconstrained .object)
  | "GetDirectBufferCapacity" => some (.unconstrained (.primitive .long))
  | "ExceptionDescribe" | "ExceptionClear" | "FatalError" | "DeleteGlobalRef" | "DeleteLocalRef"
  | "DeleteWeakGlobalRef" | "ReleaseStringChars" | "ReleaseStringUTFChars"
  | "SetObjectArrayElement" | "GetStringRegion" | "GetStringUTFRegion"
  | "ReleasePrimitiveArrayCritical" | "ReleaseStringCritical" => some (.unconstrained .void)
  | _ => none

/-- What the function with a name does: the families first, then the names as they are. No other
name is one of the interface. -/
def ofName? (name : String) : Option Behaviour :=
  (ofCallName? (bytes name)).or ((ofFieldName? (bytes name)).or
    ((ofArrayName? (bytes name)).or (ofOwnName? name)))

end Behaviour

end NativeFlow
