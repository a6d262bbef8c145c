import NativeFlow.Proofs.Run
import NativeFlow.Proofs.Similar.Call

namespace NativeFlow

/-!
# Runs from similar states

Two replays of the same calls from similar states go the same way, call by call: taint decides
neither whether a call can be made nor which names get a value.

* `Replay.Similar`: states that differ in nothing but taint and reports.
* `Replay.Similar.argument`: similar states have similar arguments.
* `Replay.Similar.settle`: settling a call keeps states similar.
-/

namespace Replay

variable {R : Taint → Taint → Prop}

/-- States that differ in nothing but taint and reports. -/
structure Similar (R : Taint → Taint → Prop) (r r' : Replay) : Prop where
  machine : r.machine = r'.machine
  bindings : ∀ name, Option.Rel (Value.Similar R) (r.bindings.find? name) (r'.bindings.find? name)
  natives : r.natives = r'.natives
  coverage : r.coverage = r'.coverage
  callIndex : r.callIndex = r'.callIndex
  traceIndex : r.traceIndex = r'.traceIndex
  aborted : r.aborted = r'.aborted

/-! ### One call -/

namespace Similar

variable {r r' : Replay}

/-- An input with the same name and width and similar notes: it gets the same handle in both states.
-/
theorem addInput (h : Similar R r r') {input input' : Input} (hname : input.name = input'.name)
    (hbits : ∀ pointerBits, input.value.bits pointerBits = input'.value.bits pointerBits)
    (hnotes : List.Forall₂ (Note.Similar R) input.value.notes input'.value.notes) :
    Similar R (r.addInput input) (r'.addInput input') where
  machine := by simp only [Replay.addInput, h.machine, hbits]
  bindings := by
    simp only [Replay.addInput, h.machine, hbits, hname]
    exact rel_find?_insert h.bindings input'.name ⟨rfl, rfl, hnotes⟩
  natives := h.natives
  coverage := h.coverage
  callIndex := h.callIndex
  traceIndex := h.traceIndex
  aborted := h.aborted

/-- Evaluating an argument fails in both states, with the same fault, or gives similar values. -/
theorem argument (h : Similar R r r') (arg : Argument) :
    Agree (Value.Similar R) (r.argument arg) (r'.argument arg) := by
  refine argument_agree h.bindings (fun handle => ?_) arg
  exact ⟨rfl, congrArg Machine.pointerBits h.machine, .nil⟩

/-- The calls that similar states make of similar arguments are similar. -/
theorem view (h : Similar R r r') {catalog catalog' : Catalog}
    (hcatalog : Catalog.Similar R catalog catalog') {args args' : List Value}
    (hargs : List.Forall₂ (Value.Similar R) args args') :
    Call.Similar R (r.view catalog args) (r'.view catalog' args') :=
  ⟨h.machine, hcatalog, h.natives, hargs⟩

/-- A call that is cut short leaves similar states behind: `Replay.abort` records neither values nor
taint. -/
theorem abort (h : Similar R r r') (function : Function) (fault : Fault) :
    Similar R (r.abort function fault) (r'.abort function fault) where
  machine := h.machine
  bindings := h.bindings
  natives := h.natives
  coverage := by simp only [Replay.abort, h.coverage]
  callIndex := by simp only [Replay.abort, h.callIndex]
  traceIndex := by simp only [Replay.abort, h.traceIndex]
  aborted := by simp only [Replay.abort, h.traceIndex]

/-- **One call.** `Replay.settle` with similar replies keeps states similar. -/
theorem settle (h : Similar R r r') (call : RecordedCall) (function : Function)
    {reply reply' : Reply} (hreply : Reply.Similar R reply reply') :
    Similar R (r.settle call function reply) (r'.settle call function reply') where
  machine := hreply.machine
  bindings := by
    -- First the arguments are written back under their names, then the result is bound.
    have hwritten := rel_find?_writeBack h.bindings call.args hreply.effect.args
    exact rel_find?_bindResult hwritten call.bind hreply.value?
  natives := hreply.effect.natives
  coverage := by simp only [Replay.settle, h.coverage, hreply.effect.modeled]
  callIndex := by simp only [Replay.settle, h.callIndex]
  traceIndex := by simp only [Replay.settle, h.traceIndex]
  aborted := rfl

end Similar

end Replay

end NativeFlow
