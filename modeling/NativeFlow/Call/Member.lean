import NativeFlow.Call.Object

namespace NativeFlow

/-!
# Methods and fields as values

* `Call.methodId`, `Call.fieldId`: the identity of a member, by class, name and descriptor.
* `Call.toReflectedMethod` and its like: members as reflection objects and back.
-/

/-- The class of reflected methods. -/
def methodClass : String := "java/lang/reflect/Method"

/-- The class of reflected fields. -/
def fieldClass : String := "java/lang/reflect/Field"

namespace Call

/-- The class, the name and the descriptor of the member that is looked up. -/
def member? (c : Call) : Option (String × String × String) :=
  match c.textArg? 1, c.textArg? 2 with
  | some name, some signature => some ((c.classArg? 0).getD unknownClass, name, signature)
  | _, _ => none

/-- The identity of a method. -/
def methodId (c : Call) : Effect :=
  c.returning? (c.member?.map fun (className, methodName, signature) =>
    [.method { className, methodName, signature }])

/-- The identity of a field. -/
def fieldId (c : Call) : Effect :=
  c.returning? (c.member?.map fun (className, fieldName, signature) =>
    [.field { className, fieldName, signature }])

/-- A reflection object with the identity it stands for. -/
def reflected (javaType : String) (identity : Note) : List Note :=
  [.object (.ofType .reflectionCall javaType), identity]

/-- The reflection object of a method. -/
def toReflectedMethod (c : Call) : Effect :=
  c.returning? (((c.arg? 1).bind Value.method?).map fun m => reflected methodClass (.method m))

/-- The reflection object of a field. -/
def toReflectedField (c : Call) : Effect :=
  c.returning? (((c.arg? 1).bind Value.field?).map fun f => reflected fieldClass (.field f))

/-- The identity of a reflected method. -/
def fromReflectedMethod (c : Call) : Effect :=
  c.returning? (((c.arg? 0).bind Value.method?).map fun m => [.method m])

/-- The identity of a reflected field. -/
def fromReflectedField (c : Call) : Effect :=
  c.returning? (((c.arg? 0).bind Value.field?).map fun f => [.field f])

end Call

end NativeFlow
