import NativeFlow.Call.Basic
import NativeFlow.Descriptor
import NativeFlow.Interface.Basic

namespace NativeFlow

/-!
# Method calls

* `Invocation`: a call through a method id, with its receiver and arguments told apart.
* `Invocation.returned?`: what the descriptor and the catalog say about the result. The taint of a
  source comes from the catalog, any other result inherits that of its receiver.
* `IntentMethod.observe`: the methods that fill, read and use Intents.
* `Invocation.sinkFindings`: the tainted values that a sink is given.
* `Call.invoke`: all of these together.
-/

/-- A call through a method id. -/
structure Invocation where
  method : MethodIdentity
  binding : Binding
  /-- The arguments of the interface function. -/
  args : List Value
  catalog : Catalog

namespace Invocation

/-- The object that the method is called on. -/
def receiver? (i : Invocation) : Option Value :=
  if i.binding.hasReceiver then i.args.head? else none

/-- The arguments of the method itself. -/
def arguments (i : Invocation) : List Value := i.args.drop i.binding.firstArgument

/-- The text that an argument of the method refers to. -/
def text? (i : Invocation) (index : Nat) : Option String :=
  (i.arguments[index]?.bind Value.literal?).map (·.value)

/-- What the catalog says about the method. -/
def classification? (i : Invocation) : Option Classification :=
  i.catalog.classify i.method.fullSignature

/-! ### The result -/

/-- Where a result comes from. -/
def provenance (i : Invocation) : Provenance :=
  if i.binding.hasReceiver then .reflectionCall else .classStatic

/-- The taint that a result inherits: that of the receiver, or else that of the first tainted field
of the receiver or of the class. -/
def inheritedTaint (i : Invocation) : Taint :=
  -- A static call has the class where others have the receiver.
  let fields? : Option (FieldTable Note) :=
    if i.binding.hasReceiver then (i.args.head?.bind Value.object?).map (·.fields)
    else (i.args.head?.bind Value.class?).map (·.fields)
  match i.receiver?.bind Value.object? with
  -- The taint of the object itself comes before that of its fields.
  | some ⟨_, _, _, .tainted origin categories, _⟩ => .tainted origin categories
  | _ => (fields?.bind FieldTable.firstTainted?).getD .clean

/-- The taint of a result. -/
def resultTaint (i : Invocation) : Taint :=
  match i.classification? with
  | some (.source categories) => .tainted .api categories
  | _ => i.inheritedTaint

/-- What is known about the result; nothing if the descriptor cannot be read or has none. -/
def returned? (i : Invocation) : Option Note :=
  match MethodSignature.ofText i.method.signature with
  | .ok signature => (signature.returns.note? i.provenance).map (·.absorb i.resultTaint)
  | .error _ => none

/-! ### Sinks -/

/-- The values that sinks watch, with their positions. A receiver comes first. -/
def positions (i : Invocation) : List (Nat × Value) :=
  (i.receiver?.toList ++ i.arguments).zipIdx.map fun (value, position) => (position, value)

/-- The report of a value that a sink is given, if it is watched and tainted. -/
def sinkFinding? (i : Invocation) (selector : SinkSelector) (position : Nat) (value : Value) :
    Option Finding :=
  match value.taint? with
  | some (.tainted _ categories) =>
    if selector.selects position then
      some (.taintedSink i.method.fullSignature position categories.toList)
    else none
  | _ => none

/-- The reports of the tainted values that a sink is given. -/
def sinkFindings (i : Invocation) : List Finding :=
  match i.classification? with
  | some (.sink selector) =>
    i.positions.filterMap fun (position, value) => i.sinkFinding? selector position value
  | _ => []

end Invocation

/-! ### Intents -/

/-- The class through which activities are started. -/
def contextClass : String := "android/content/Context"

/-- A method that fills, reads or uses an Intent. -/
inductive IntentMethod where
  | setClassName
  | putExtra
  | getStringExtra
  | startActivity
  deriving DecidableEq, Repr

namespace IntentMethod

/-- The class and the name of a method. -/
def identity : IntentMethod → String × String
  | .setClassName => (intentClass, "setClassName")
  | .putExtra => (intentClass, "putExtra")
  | .getStringExtra => (intentClass, "getStringExtra")
  | .startActivity => (contextClass, "startActivity")

/-- Every such method. -/
def all : List IntentMethod := [.setClassName, .putExtra, .getStringExtra, .startActivity]

/-- The method of this kind that an identity names. -/
def of? (m : MethodIdentity) : Option IntentMethod :=
  all.find? (·.identity = (m.className, m.methodName))

end IntentMethod

/-- What has become of a call after its Intents have been looked at. -/
structure Observation where
  args : List Value
  returned? : Option Note
  findings : List Finding := []

namespace Observation

/-- Replaces the object that the receiver refers to. -/
def setReceiver (o : Observation) (identity : ObjectIdentity Note) : Observation :=
  { o with args := o.args.modifyHead (·.setObject identity) }

end Observation

namespace IntentMethod

/-- An Intent is told which component it is meant for. The result shares its state. -/
def setClass (i : Invocation) (o : Observation) : Observation :=
  -- The name of the class is the second argument; the first says where to look for it.
  match i.text? 1, i.receiver?.bind Value.object? with
  | some activity, some intent =>
    let icc := { intent.icc.getD {} with isIcc := true, activityName := some activity }
    let o := o.setReceiver { intent with icc := some icc }
    match o.returned? with
    | some (.object result) =>
      { o with returned? := some (.object { result with icc := some icc }) }
    | _ => o
  | _, _ => o

/-- An Intent is given an extra. The result is the Intent itself. -/
def addExtra (i : Invocation) (o : Observation) : Observation :=
  match i.text? 0, i.receiver?.bind Value.object? with
  | some key, some intent =>
    let icc := intent.icc.getD {}
    -- An extra of which nothing is known is kept under its key without a value.
    let extra := i.arguments[1]?.bind Value.payload?
    let icc := { icc with extras := Assoc.insert key extra icc.extras }
    let intent := { intent with icc := some icc }
    { o.setReceiver intent with returned? := o.returned?.map fun _ => .object intent }
  | _, _ => o

/-- An extra that native code takes out of an Intent is under the control of another component. -/
def readExtra (i : Invocation) (o : Observation) : Observation :=
  match o.returned? with
  | some (.object result) =>
    -- The result is marked with the key it was found under, if that is known.
    let icc := { isIcc := true, extras := (i.text? 0).toList.map fun key => (key, none) }
    let taint := result.taint.absorb (Taint.of .api [sensitiveInfo])
    { o with returned? := some (.object { result with taint, icc := some icc }) }
  | _ => o

/-- An activity is started through an Intent. -/
def start (i : Invocation) (o : Observation) : Observation :=
  match (i.arguments.head?.bind Value.object?).bind (·.icc) with
  | some icc =>
    let edge := .iccEdge i.method.fullSignature icc.activityName icc.extras
    { o with findings := o.findings ++ [edge] }
  | none => o

/-- What a method does to Intents. -/
def observe (m : IntentMethod) (i : Invocation) (o : Observation) : Observation :=
  match m with
  | .setClassName => setClass i o
  | .putExtra => addExtra i o
  | .getStringExtra => readExtra i o
  | .startActivity => start i o

end IntentMethod

namespace Invocation

/-- What a call does to Intents. -/
def observed (i : Invocation) : Observation :=
  let o : Observation := { args := i.args, returned? := i.returned? }
  match IntentMethod.of? i.method with
  | some m => m.observe i o
  | none => o

end Invocation

namespace Call

/-- The invocation that a call makes, if its method is known. -/
def invocation? (c : Call) (binding : Binding) : Option Invocation :=
  ((c.arg? binding.methodIndex).bind Value.method?).map fun method =>
    { method, binding, args := c.args, catalog := c.catalog }

/-- Calls a method. -/
def invoke (c : Call) (binding : Binding) : Effect :=
  match c.invocation? binding with
  | none => c.fallback
  | some i =>
    let o := i.observed
    { modeled := true
      args := o.args
      natives := c.natives
      findings := o.findings ++ i.sinkFindings
      notes := o.returned?.toList }

end Call

end NativeFlow
