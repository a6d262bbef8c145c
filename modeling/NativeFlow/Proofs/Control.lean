import NativeFlow.Proofs.Frame

namespace NativeFlow

/-!
# Control flow and handles do not depend on data

What memory holds, what is known about values and what the catalog lists decides about notes and
findings, and about nothing else: neither which calls can be made, nor which names get a value, nor
which handles are given out.

* `Value.SameHandle`: values that may differ in their notes only.
* `Machine.SameSupply`: machines that give out the same handles from now on.
* `Behaviour.reply_sameHandle`: a function takes as many handles whatever it finds, and returns the
  same one.
* `Replay.InStep`: two replays have made the same calls and given the same handles to the same
  names.
* `Trace.replay_inStep`: traces that differ in data only are replayed in step.
-/

/-! ### Handles -/

/-- Values with the same handle and width. -/
structure Value.SameHandle (v v' : Value) : Prop where
  handle : v.handle = v'.handle
  bits : v.bits = v'.bits

namespace Value.SameHandle

variable {v v' v'' : Value}

theorem symm (h : v.SameHandle v') : v'.SameHandle v := ⟨h.handle.symm, h.bits.symm⟩

theorem trans (h : v.SameHandle v') (h' : v'.SameHandle v'') : v.SameHandle v'' :=
  ⟨h.handle.trans h'.handle, h.bits.trans h'.bits⟩

end Value.SameHandle

/-- A value that is kept up to changes keeps its handle. -/
theorem Value.Keeps.sameHandle {v v' : Value} (h : v.Keeps v') : v.SameHandle v' :=
  ⟨h.handle.symm, h.bits.symm⟩

/-- Machines with the same width of a pointer that have given out as many handles of either sort. -/
structure Machine.SameSupply (m m' : Machine) : Prop where
  pointerBits : m.pointerBits = m'.pointerBits
  wideHandles : m.wideHandles = m'.wideHandles
  narrowHandles : m.narrowHandles = m'.narrowHandles

namespace Machine

/-- `Machine.allocate` leaves the width of a pointer as it is. -/
theorem allocate_pointerBits (m : Machine) (bits : Nat) :
    (m.allocate bits).2.pointerBits = m.pointerBits := by
  unfold allocate
  split <;> rfl

namespace SameSupply

variable {m m' m'' : Machine}

theorem refl (m : Machine) : m.SameSupply m := ⟨rfl, rfl, rfl⟩

theorem symm (h : m.SameSupply m') : m'.SameSupply m :=
  ⟨h.pointerBits.symm, h.wideHandles.symm, h.narrowHandles.symm⟩

theorem trans (h : m.SameSupply m') (h' : m'.SameSupply m'') : m.SameSupply m'' :=
  ⟨h.pointerBits.trans h'.pointerBits, h.wideHandles.trans h'.wideHandles,
    h.narrowHandles.trans h'.narrowHandles⟩

/-- The next handle is the same, and so are those after it. -/
theorem allocate (h : m.SameSupply m') (bits : Nat) :
    (m.allocate bits).1 = (m'.allocate bits).1 ∧
      (m.allocate bits).2.SameSupply (m'.allocate bits).2 := by
  unfold Machine.allocate
  split
  · exact ⟨by rw [h.wideHandles], h.pointerBits, by simp only [h.wideHandles], h.narrowHandles⟩
  · exact ⟨by rw [h.narrowHandles], h.pointerBits, h.wideHandles, by simp only [h.narrowHandles]⟩

/-- No region that is mapped takes a handle. -/
theorem mapRegion (m : Machine) (region : Region) : m.SameSupply (m.mapRegion region) := by
  unfold Machine.mapRegion
  split <;> exact ⟨rfl, rfl, rfl⟩

/-- Nor do many regions. -/
theorem foldl_mapRegion (m : Machine) (regions : List Region) :
    m.SameSupply (regions.foldl Machine.mapRegion m) := by
  induction regions generalizing m with
  | nil => exact refl m
  | cons region regions ih => exact (mapRegion m region).trans (ih _)

end SameSupply

end Machine

/-! ### One call -/

namespace Behaviour

variable {c c' : Call}

/-- The arguments have the same handles after the call if they have before it. -/
theorem effect_sameHandle (hargs : List.Forall₂ Value.SameHandle c.args c'.args)
    (behaviour : Behaviour) :
    List.Forall₂ Value.SameHandle (behaviour.effect c).args (behaviour.effect c').args := by
  have htrans : ∀ a b c : Value, a.SameHandle b → b.SameHandle c → a.SameHandle c :=
    fun _ _ _ => .trans
  -- Back to the arguments before the one call, over to those of the other, and forth again.
  have hback : List.Forall₂ Value.SameHandle (behaviour.effect c).args c.args :=
    ((behaviour.effect_keeps c).imp fun _ _ h => h.sameHandle.symm).flip
  have hforth : List.Forall₂ Value.SameHandle c'.args (behaviour.effect c').args :=
    (behaviour.effect_keeps c').imp fun _ _ h => h.sameHandle
  exact forall₂_trans htrans (forall₂_trans htrans hback hargs) hforth

/-- A value that is passed on has the same handle in both calls. -/
theorem passedOn?_sameHandle (hargs : List.Forall₂ Value.SameHandle c.args c'.args)
    (behaviour : Behaviour) :
    Option.Rel Value.SameHandle (behaviour.passedOn? c.args) (behaviour.passedOn? c'.args) := by
  unfold passedOn?
  split
  · exact rel_head? hargs
  · exact .none

/-- **One handle for a result.** Whether a function finds what it looks for or not, it takes the
same handles from the supply and returns the same handle. -/
theorem reply_sameHandle (hmachine : c.machine.SameSupply c'.machine)
    (hargs : List.Forall₂ Value.SameHandle c.args c'.args) (behaviour : Behaviour) :
    (behaviour.reply c).machine.SameSupply (behaviour.reply c').machine ∧
      Option.Rel Value.SameHandle (behaviour.reply c).value? (behaviour.reply c').value? := by
  have hpassed := behaviour.passedOn?_sameHandle hargs
  unfold reply
  generalize behaviour.passedOn? c.args = passed at hpassed
  generalize behaviour.passedOn? c'.args = passed' at hpassed
  -- A value is passed on in both calls or in neither, by the behaviour alone.
  cases hpassed with
  | some hv => exact ⟨hmachine, .some hv⟩
  | none =>
    dsimp only
    split
    · exact ⟨hmachine, .none⟩
    · rw [hmachine.pointerBits]
      obtain ⟨hhandle, hsupply⟩ :=
        hmachine.allocate (behaviour.returns.width c'.machine.pointerBits)
      exact ⟨hsupply, .some ⟨hhandle, rfl⟩⟩

end Behaviour

/-! ### Whole replays -/

namespace Replay

/-- Two replays have made the same calls, with the same end, and given the same handles to the same
names. -/
structure InStep (r r' : Replay) : Prop where
  machine : r.machine.SameSupply r'.machine
  bindings : ∀ name, Option.Rel Value.SameHandle (r.bindings.find? name) (r'.bindings.find? name)
  total : r.coverage.total = r'.coverage.total
  perFunction : r.coverage.perFunction = r'.coverage.perFunction
  callIndex : r.callIndex = r'.callIndex
  traceIndex : r.traceIndex = r'.traceIndex
  aborted : r.aborted = r'.aborted

namespace InStep

variable {r r' : Replay}

/-- An input of the same name and width gets the same handle. -/
theorem addInput (h : r.InStep r') {input input' : Input} (hname : input.name = input'.name)
    (hbits : input.value.bits r.machine.pointerBits = input'.value.bits r.machine.pointerBits) :
    (r.addInput input).InStep (r'.addInput input') := by
  obtain ⟨hhandle, hsupply⟩ := h.machine.allocate (input.value.bits r.machine.pointerBits)
  have hwidth : input'.value.bits r'.machine.pointerBits =
      input.value.bits r.machine.pointerBits := by
    rw [← h.machine.pointerBits, hbits]
  constructor
  · simp only [Replay.addInput, hwidth]
    exact hsupply
  · simp only [Replay.addInput, hwidth, hname]
    exact rel_find?_insert h.bindings input'.name ⟨hhandle, rfl⟩
  · exact h.total
  · exact h.perFunction
  · exact h.callIndex
  · exact h.traceIndex
  · exact h.aborted

/-- An argument has values of the same handle, or is not bound in either replay. -/
theorem argument (h : r.InStep r') (arg : Argument) :
    Agree Value.SameHandle (r.argument arg) (r'.argument arg) :=
  argument_agree h.bindings (fun _ => ⟨rfl, h.machine.pointerBits⟩) arg

/-- A call that is cut short counts in both replays, under the same name. -/
theorem abort (h : r.InStep r') (function : Function) (fault : Fault) :
    (r.abort function fault).InStep (r'.abort function fault) where
  machine := h.machine
  bindings := h.bindings
  total := by simp only [Replay.abort, Coverage.total_record, h.total]
  perFunction := by simp only [Replay.abort, Coverage.perFunction_record, h.perFunction]
  callIndex := by simp only [Replay.abort, h.callIndex]
  traceIndex := by simp only [Replay.abort, h.traceIndex]
  aborted := by simp only [Replay.abort, h.traceIndex]

/-- A call that is settled counts in both replays, and its result has the same handle. -/
theorem settle (h : r.InStep r') (catalog catalog' : Catalog) (call : RecordedCall)
    (function : Function) {args args' : List Value}
    (hargs : List.Forall₂ Value.SameHandle args args') :
    (r.settle call function (r.reply catalog function args)).InStep
      (r'.settle call function (r'.reply catalog' function args')) := by
  have hview : List.Forall₂ Value.SameHandle (r.view catalog args).args
      (r'.view catalog' args').args := hargs
  obtain ⟨hmachine, hvalue⟩ := function.behaviour.reply_sameHandle h.machine hview
  have heffect := function.behaviour.effect_sameHandle hview
  rw [← Behaviour.reply_effect, ← Behaviour.reply_effect] at heffect
  constructor
  · exact hmachine
  · exact rel_find?_bindResult (rel_find?_writeBack h.bindings call.args heffect) call.bind hvalue
  · simp only [Replay.settle, Coverage.total_record, h.total]
  · simp only [Replay.settle, Coverage.perFunction_record, h.perFunction]
  · simp only [Replay.settle, h.callIndex]
  · simp only [Replay.settle, h.traceIndex]
  · rfl

/-- **One call.** It fails in both replays with the same error, or they stay in step. -/
theorem step (h : r.InStep r') (catalog catalog' : Catalog) (call : RecordedCall) :
    Agree InStep (r.step catalog call) (r'.step catalog' call) := by
  refine step_agree call h.aborted h.traceIndex h.argument h h.abort ?_
  intro function args args' _ _ hargs
  exact h.settle catalog catalog' call function hargs

end InStep

end Replay

/-- Traces with the same calls, whose inputs have the same names and widths. What the inputs are and
what memory holds may differ. -/
structure Trace.SameShape (trace trace' : Trace) : Prop where
  pointerBits : trace.pointerBits = trace'.pointerBits
  calls : trace.calls = trace'.calls
  inputs : List.Forall₂
    (fun input input' => input.name = input'.name ∧
      input.value.bits trace.pointerBits.toNat = input'.value.bits trace.pointerBits.toNat)
    trace.inputs trace'.inputs

/-- Traces of the same shape start in step, whatever their memory holds. -/
theorem Replay.inStep_start {trace trace' : Trace} (h : trace.SameShape trace') :
    (start trace).InStep (start trace') := by
  have hempty : Machine.SameSupply { pointerBits := trace.pointerBits.toNat }
      { pointerBits := trace'.pointerBits.toNat } := by
    rw [h.pointerBits]
    exact .refl _
  -- The width of a pointer stays what it is while inputs are handed over.
  have hstart : (start trace).InStep (start trace') ∧
      (start trace).machine.pointerBits = trace.pointerBits.toNat := by
    unfold start
    refine List.rel_foldl (P := fun r r' : Replay => r.InStep r' ∧
      r.machine.pointerBits = trace.pointerBits.toNat) ?_ ?_ h.inputs
    · rintro r r' ⟨hr, hbits⟩ input input' ⟨hname, hwidth⟩
      refine ⟨hr.addInput hname (by rw [hbits, hwidth]), ?_⟩
      rw [← hbits]
      exact r.machine.allocate_pointerBits _
    · have hmap := Machine.SameSupply.foldl_mapRegion { pointerBits := trace.pointerBits.toNat }
        trace.memory
      have hmap' := Machine.SameSupply.foldl_mapRegion { pointerBits := trace'.pointerBits.toNat }
        trace'.memory
      refine ⟨⟨?_, fun _ => .none, rfl, rfl, rfl, rfl, rfl⟩, hmap.pointerBits.symm⟩
      exact hmap.symm.trans (hempty.trans hmap')
  exact hstart.1

/-- **Control flow and handles do not depend on data.** Two traces with the same width of a pointer,
the same calls, and inputs of the same names and widths are replayed under any two catalogs. Both
replays fail with the same error, or both succeed: the same call ended both, with the same fault, if
any did; the same names are bound, to values of the same handle and width; and as many calls were
made, of each function. -/
theorem Trace.replay_inStep {trace trace' : Trace} (h : trace.SameShape trace')
    (catalog catalog' : Catalog) :
    Agree (fun r r' =>
        r.aborted = r'.aborted ∧
        (∀ name, Option.Rel (fun v v' => v.handle = v'.handle ∧ v.bits = v'.bits)
          (r.bindings.find? name) (r'.bindings.find? name)) ∧
        r.coverage.total = r'.coverage.total ∧
        r.coverage.perFunction = r'.coverage.perFunction)
      (trace.replay catalog) (trace'.replay catalog') := by
  rw [Trace.replay_eq_run, Trace.replay_eq_run, ← h.pointerBits, ← h.calls]
  split
  case isFalse => exact .error _
  case isTrue =>
    have hruns : Agree Replay.InStep ((Replay.start trace).run catalog trace.calls)
        ((Replay.start trace').run catalog' trace.calls) :=
      Replay.run_agree (fun _ _ call hr => hr.step catalog catalog' call) (Replay.inStep_start h) _
    refine hruns.imp fun r r' hr => ⟨hr.aborted, fun name => ?_, hr.total, hr.perFunction⟩
    exact rel_imp (fun v v' hv => ⟨hv.handle, hv.bits⟩) (hr.bindings name)

/-- A run that reads a field of something that it is handed. -/
def Trace.fieldRead (memory : List Region) (owner : InputValue) : Trace where
  memory := memory
  inputs := [⟨"class", .classObject "Meter"⟩, ⟨"meter", owner⟩]
  calls := [
    ⟨.function "GetFieldID", [.reference "class", .address 4096, .address 4160], some "field"⟩,
    ⟨.function "GetLongField", [.reference "meter", .reference "field"], some "reading"⟩]

set_option maxRecDepth 20000 in
/-- Where the name of the field can be read, the calls find what they look for. Where memory is
empty and the owner is a text, they find nothing; yet the result has the same handle. -/
theorem Trace.replay_inStep_fieldRead :
    ∃ r r' v v',
      (fieldRead [⟨4096, .text "total"⟩, ⟨4160, .text "J"⟩]
        (.object "Meter" true ["LOCATION"])).replay {} = .ok r ∧
      (fieldRead [] (.string "none")).replay {} = .ok r' ∧
      r.bindings.find? "reading" = some v ∧ r'.bindings.find? "reading" = some v' ∧
      r.coverage.modeled = 2 ∧ r'.coverage.modeled = 0 ∧ v.notes ≠ [] ∧ v'.notes = [] ∧
      v.handle = v'.handle ∧ v.bits = v'.bits ∧ r.coverage.total = r'.coverage.total := by
  obtain ⟨r, r', v, v', hr, hr', hv, hv', hmodeled, hmodeled', hnotes, hnotes'⟩ :
      ∃ r r' v v',
        (fieldRead [⟨4096, .text "total"⟩, ⟨4160, .text "J"⟩]
          (.object "Meter" true ["LOCATION"])).replay {} = .ok r ∧
        (fieldRead [] (.string "none")).replay {} = .ok r' ∧
        r.bindings.find? "reading" = some v ∧ r'.bindings.find? "reading" = some v' ∧
        r.coverage.modeled = 2 ∧ r'.coverage.modeled = 0 ∧ v.notes ≠ [] ∧ v'.notes = [] :=
    ⟨_, _, _, _, rfl, rfl, rfl, rfl, rfl, rfl, List.cons_ne_nil _ _, rfl⟩
  have hshape : (fieldRead [⟨4096, .text "total"⟩, ⟨4160, .text "J"⟩]
      (.object "Meter" true ["LOCATION"])).SameShape (fieldRead [] (.string "none")) :=
    ⟨rfl, rfl, .cons ⟨rfl, rfl⟩ (.cons ⟨rfl, rfl⟩ .nil)⟩
  have hagree := replay_inStep hshape {} {}
  rw [hr, hr'] at hagree
  cases hagree with
  | ok h =>
    obtain ⟨-, hbindings, htotal, -⟩ := h
    have hreading := hbindings "reading"
    rw [hv, hv'] at hreading
    cases hreading with
    | some h =>
      exact ⟨r, r', v, v', hr, hr', hv, hv', hmodeled, hmodeled', hnotes, hnotes', h.1, h.2, htotal⟩

end NativeFlow
