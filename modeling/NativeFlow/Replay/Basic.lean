import NativeFlow.Call.Reply
import NativeFlow.Interface.Table
import NativeFlow.Replay.Coverage
import NativeFlow.Text.Quoted
import NativeFlow.Trace.Basic

namespace NativeFlow

/-!
# Replay

A trace is replayed call by call. Values have names; a call takes its arguments from them, gives the
names their values back as they are after the call, and may give its result a name.

* `Replay`: the state between two calls.
* `Replay.start`: the state before the first call.
* `Replay.step`: one call. A call of a reserved slot ends the run, and all later calls are ignored.
* `Trace.replay`: all calls of a trace.
* `ReplayError.message`: why a trace cannot be replayed.

Much of this goes by other words around a replay. A replay is a session (`Replay`) on a host
(`Machine`). It asks an oracle (`Catalog`) for the taint class of a method (`Classification`),
dispatches every call to a handler (`Function.call`, `Behaviour`) and counts the outcomes
(`Coverage`). Values carry annotations (`Note`), and annotations carry taint info (`Taint`,
`Taint.Record`) with the kind of its source (`Origin`). The native registry (`Registry`) can
unregister a class (`Registry.dropClass`).
-/

/-- A finding with the call that led to it. -/
structure Report where
  callIndex : Nat
  function : String
  finding : Finding

/-- The call that ended a run. -/
structure Abort where
  callIndex : Nat
  fault : Fault
  deriving DecidableEq

/-- Why a trace cannot be replayed. -/
inductive ReplayError where
  | unsupportedWidth (bits : Nat)
  | unknownFunction (callIndex : Nat) (target : Target)
  | unboundReference (callIndex : Nat) (function : String) (name : String)
  deriving DecidableEq

/-- A target as it is shown in messages. -/
def Target.display : Target → String
  | .function name => "Function(" ++ Quoted.quote name ++ ")"
  | .symbol name => "Symbol(" ++ Quoted.quote name ++ ")"
  | .slot index => "Slot(" ++ Numeral.decimal index.toNat ++ ")"

/-- The wording of an error. -/
def ReplayError.message : ReplayError → String
  | .unsupportedWidth bits => "unsupported pointer width " ++ Numeral.decimal bits
  | .unknownFunction callIndex target =>
    "call " ++ Numeral.decimal callIndex ++ ": unknown JNI function " ++ target.display
  | .unboundReference callIndex function name =>
    "call " ++ Numeral.decimal callIndex ++ " (" ++ function ++ "): unbound reference " ++ name

/-- The function that a target addresses. -/
def Target.resolve? : Target → Option Function
  | .function name => Interface.ofName? name
  | .symbol name => Interface.ofSymbol? name
  | .slot index => Interface.ofSlot? index.toNat

/-- The state of a replay between two calls. -/
structure Replay where
  machine : Machine
  /-- The values that have a name. -/
  bindings : SortedMap String Value := .empty
  natives : Registry := {}
  reports : List Report := []
  coverage : Coverage := {}
  /-- The number of calls that functions have been asked for so far. Reports are numbered by it. -/
  callIndex : Nat := 0
  /-- The place in the trace of the call that comes next. Errors and the end of a run name it. It is
  the same number (`Replay.traceIndex_eq_callIndex`), counted by another hand. -/
  traceIndex : Nat := 0
  /-- The call that ended the run. -/
  aborted : Option Abort := none

/-! ### Before the first call -/

/-- Maps a region into memory. -/
def Machine.mapRegion (m : Machine) (region : Region) : Machine :=
  match region.contents with
  | .text value => m.mapText region.address value
  | .bytes values => m.map region.address values
  | .words values => m.mapWords region.address values

namespace InputValue

/-- The taint of an input; categories count only if it is tainted. -/
def taint (tainted : Bool) (categories : List String) : Taint :=
  if tainted then Taint.of .argument categories else .clean

/-- The width of an input. A primitive type that is not known is as wide as a pointer. -/
def bits (pointerBits : Nat) : InputValue → Nat
  | .primitive javaType _ _ =>
    ((Primitive.ofKeyword? javaType).map Primitive.width).getD pointerBits
  | _ => pointerBits

/-- What is known about an input. -/
def notes : InputValue → List Note
  | .object javaType tainted categories =>
    [.object { ObjectIdentity.ofType .argument javaType with taint := taint tainted categories }]
  | .classObject className => [.classIdentity { className }]
  -- A string is an object as well as a text.
  | .string value =>
    [.object (.ofType .argument stringClass), .string { source := .argument, value }]
  | .primitive javaType tainted categories =>
    [.primitive { source := .argument, javaType, taint := taint tainted categories }]

end InputValue

namespace Replay

/-- Hands an input to native code. -/
def addInput (r : Replay) (input : Input) : Replay :=
  let bits := input.value.bits r.machine.pointerBits
  let (handle, machine) := r.machine.allocate bits
  let value := { handle, bits, notes := input.value.notes }
  { r with machine, bindings := r.bindings.insert input.name value }

/-- The state before the first call. -/
def start (trace : Trace) : Replay :=
  -- All memory is there before the first input gets its handle.
  let machine := trace.memory.foldl Machine.mapRegion { pointerBits := trace.pointerBits.toNat }
  trace.inputs.foldl addInput { machine }

/-! ### One call -/

/-- The value of an argument, or the name that has none. -/
def argument (r : Replay) : Argument → Except String Value
  | .literal handle | .address handle => .ok { handle, bits := r.machine.pointerBits }
  | .reference name =>
    match r.bindings.find? name with
    | some value => .ok value
    | none => .error name

/-- Gives the names among the arguments the values that they have after the call, from left to
right. -/
def writeBack (bindings : SortedMap String Value) (args : List Argument) (values : List Value) :
    SortedMap String Value :=
  (args.zip values).foldl (fun bindings (arg, value) =>
    match arg with
    | .reference name => bindings.insert name value
    | _ => bindings) bindings

/-- Gives the result of a call its name. -/
def bindResult (bindings : SortedMap String Value) (name? : Option String) (value? : Option Value) :
    SortedMap String Value :=
  match name?, value? with
  | some name, some value => bindings.insert name value
  | _, _ => bindings

/-- The state after a call that replied. -/
def settle (r : Replay) (call : RecordedCall) (function : Function) (reply : Reply) : Replay where
  machine := reply.machine
  bindings := bindResult (writeBack r.bindings call.args reply.effect.args) call.bind reply.value?
  natives := reply.effect.natives
  reports := r.reports ++ reply.effect.findings.map fun finding =>
    { callIndex := r.callIndex, function := function.name, finding }
  coverage :=
    r.coverage.record function.name (if reply.effect.modeled then .modeled else .fallback)
  callIndex := r.callIndex + 1
  traceIndex := r.traceIndex + 1
  aborted := none

/-- The state after a call that failed. -/
def abort (r : Replay) (function : Function) (fault : Fault) : Replay :=
  { r with
    coverage := r.coverage.record function.name .fault
    callIndex := r.callIndex + 1
    traceIndex := r.traceIndex + 1
    aborted := some ⟨r.traceIndex, fault⟩ }

/-- Makes one call, unless the run has ended. -/
def step (catalog : Catalog) (r : Replay) (call : RecordedCall) : Except ReplayError Replay :=
  if r.aborted.isSome then .ok r
  else
    -- Errors go by the index in the trace, reports by the number of calls made.
    match call.target.resolve? with
    | none => .error (.unknownFunction r.traceIndex call.target)
    | some function =>
      match call.args.mapM r.argument with
      | .error name => .error (.unboundReference r.traceIndex function.name name)
      | .ok args =>
        match function.call { machine := r.machine, catalog, natives := r.natives, args } with
        | .error fault => .ok (r.abort function fault)
        | .ok reply => .ok (r.settle call function reply)

end Replay

/-- The widths of a pointer that are supported. -/
def Trace.supportedWidths : List UInt32 := [32, 64]

/-- Replays a trace. -/
def Trace.replay (trace : Trace) (catalog : Catalog) : Except ReplayError Replay :=
  if trace.pointerBits ∈ supportedWidths then
    trace.calls.foldlM (Replay.step catalog) (Replay.start trace)
  else .error (.unsupportedWidth trace.pointerBits.toNat)

end NativeFlow
