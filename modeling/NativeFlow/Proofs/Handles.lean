import Mathlib.Algebra.Ring.Nat
import NativeFlow.Proofs.Addressing
import NativeFlow.Proofs.Control

namespace NativeFlow

/-!
# Handles that are given out

Every input and every result of a call gets a handle of its own, unless the call passes on the
storage of its first argument. Handles of at least 32 bits are consecutive numbers, so none of them
is given out twice. Narrower ones wrap at their width and stay far below the wide ones.

* `Machine.GivesOut`: values get their handles from a machine, one after another.
* `Machine.GivesOut.wide`, `Machine.GivesOut.narrow`: which handles these are.
* `Replay.inputValues`, `Replay.newValues`: the values that inputs and calls get a handle for.
* `Trace.allocated`: all of them, in the order in which they get their handles.
* `Trace.allocated_distinct`: their handles do not alias.
-/

/-! ### The supply of handles -/

/-- Values get their handles from a machine, one after another. -/
inductive Machine.GivesOut : Machine → List Value → Machine → Prop
  | nil (m : Machine) : GivesOut m [] m
  | cons {m m' : Machine} {v : Value} {values : List Value}
      (hhandle : v.handle = (m.allocate v.bits).1)
      (h : GivesOut (m.allocate v.bits).2 values m') : GivesOut m (v :: values) m'

/-- Whether a value has at least 32 bits. -/
def Value.isWide (v : Value) : Bool := 32 ≤ v.bits

namespace Machine

/-- A wide handle is the first one plus the number of those before it. -/
theorem allocate_of_wide {m : Machine} {bits : Nat} (h : 32 ≤ bits) :
    m.allocate bits =
      (UInt64.ofNat (firstHandle + m.wideHandles), { m with wideHandles := m.wideHandles + 1 }) :=
  if_pos h

/-- A narrow handle is counted from one and wraps at its width. -/
theorem allocate_of_narrow {m : Machine} {bits : Nat} (h : ¬ 32 ≤ bits) :
    m.allocate bits =
      (UInt64.ofNat ((1 + m.narrowHandles) % 2 ^ bits),
        { m with narrowHandles := m.narrowHandles + 1 }) :=
  if_neg h

namespace GivesOut

variable {m m' m'' : Machine} {values values' : List Value}

/-- Values may be given handles after others. -/
theorem append (h : m.GivesOut values m') (h' : m'.GivesOut values' m'') :
    m.GivesOut (values ++ values') m'' := by
  induction h with
  | nil => exact h'
  | cons hhandle _ ih => exact .cons hhandle (ih h')

/-- A value with the next handle of its width. -/
theorem single (m : Machine) (bits : Nat) (notes : List Note) :
    m.GivesOut [{ handle := (m.allocate bits).1, bits, notes }] (m.allocate bits).2 :=
  .cons rfl (.nil _)

/-- **Wide handles** are consecutive numbers. -/
theorem wide (h : m.GivesOut values m') :
    (values.filter Value.isWide).map Value.handle =
      (List.range' m.wideHandles (values.filter Value.isWide).length).map fun k =>
        UInt64.ofNat (firstHandle + k) := by
  -- Induction on the values: `range'` starts where the counter of the machine stands.
  induction h with
  | nil => rfl
  | @cons m m' v values hhandle _ ih =>
    by_cases hbits : 32 ≤ v.bits
    · have hwide : v.isWide = true := decide_eq_true hbits
      rw [allocate_of_wide hbits] at hhandle ih
      rw [List.filter_cons_of_pos hwide, List.map_cons, List.length_cons, List.range'_succ,
        List.map_cons, ih, hhandle]
    · -- A narrow value leaves the count of wide ones as it is.
      have hnarrow : ¬ v.isWide = true := fun hwide => hbits (of_decide_eq_true hwide)
      rw [allocate_of_narrow hbits] at ih
      rw [List.filter_cons_of_neg hnarrow]
      exact ih

/-- **Narrow handles** are numbers below the bound of their width. -/
theorem narrow (h : m.GivesOut values m') {v : Value} (hv : v ∈ values) (hbits : v.bits < 32) :
    v.handle.toNat < 2 ^ v.bits := by
  induction h with
  | nil => exact absurd hv List.not_mem_nil
  | @cons m m' w values hhandle _ ih =>
    rcases List.mem_cons.1 hv with rfl | hlater
    · rw [hhandle, allocate_of_narrow (Nat.not_le.2 hbits), UInt64.toNat_ofNat']
      have hlt : (1 + m.narrowHandles) % 2 ^ v.bits < 2 ^ v.bits :=
        Nat.mod_lt _ (Nat.two_pow_pos _)
      exact Nat.lt_of_le_of_lt (Nat.mod_le _ _) hlt
    · exact ih hlater

end GivesOut

/-- The number of a wide handle, as long as there are fewer than 2 ^ 63 of them. -/
theorem toNat_wideHandle {k : Nat} (h : k < 2 ^ 63) :
    (UInt64.ofNat (firstHandle + k)).toNat = 0x70000000 + k := by
  rw [UInt64.toNat_ofNat', firstHandle]
  omega

end Machine

/-! ### Calls that pass on storage -/

namespace Interface

/-- The names of the functions that return the storage of a string or of an array. -/
def storageNames : List String :=
  ["GetStringChars", "GetStringUTFChars", "GetStringCritical", "GetPrimitiveArrayCritical"] ++
    Primitive.all.map fun type => "Get" ++ type.word ++ "ArrayElements"

set_option maxRecDepth 100000 in
/-- `storageNames` are the functions that pass on storage. -/
theorem storage_iff {f : Function} (h : f ∈ functions) :
    f.behaviour = .storage ↔ f.name ∈ storageNames := by
  have hrows : ∀ row ∈ rows, row.2.2 = .storage ↔ row.1 ∈ storageNames := by decide +kernel
  exact hrows _ (List.mem_of_getElem? (row_of_mem h))

end Interface

/-- A function that does not pass on an argument gives its result a new handle, if it has one. -/
theorem Behaviour.reply_givesOut {behaviour : Behaviour} {c : Call}
    (h : behaviour.passedOn? c.args = none) :
    c.machine.GivesOut (behaviour.reply c).value?.toList (behaviour.reply c).machine := by
  unfold reply
  rw [h]
  dsimp only
  split
  · exact .nil _
  · exact .single _ _ _

/-- A function that passes on an argument takes no handle. -/
theorem Behaviour.machine_of_passedOn? {behaviour : Behaviour} {c : Call} {v : Value}
    (h : behaviour.passedOn? c.args = some v) : (behaviour.reply c).machine = c.machine := by
  unfold reply
  rw [h]

/-! ### The values of a replay -/

namespace Replay

/-- The values of inputs that are handed over one after another. -/
def inputValues (r : Replay) : List Input → List Value
  | [] => []
  | input :: inputs =>
    ((r.addInput input).bindings.find? input.name).toList ++ (r.addInput input).inputValues inputs

/-- The value that a call returns, unless it has an argument and returns the storage of it. -/
def newValue? (catalog : Catalog) (r : Replay) (call : RecordedCall) : Option Value :=
  if r.aborted.isSome then none
  else
    match call.target.resolve?, call.args.mapM r.argument with
    | some function, .ok args =>
      if function.name ∈ Interface.storageNames ∧ args ≠ [] then none
      else (function.call (r.view catalog args)).toOption.bind Reply.value?
    | _, _ => none

/-- The values of calls that are made one after another. -/
def newValues (catalog : Catalog) (r : Replay) : List RecordedCall → List Value
  | [] => []
  | call :: calls =>
    (r.newValue? catalog call).toList ++
      match r.step catalog call with
      | .ok s => s.newValues catalog calls
      | .error _ => []

variable {catalog : Catalog} {r r' : Replay} {call : RecordedCall} {function : Function}
  {args : List Value}

/-- Inputs get their handles one after another. -/
theorem givesOut_inputs (r : Replay) (inputs : List Input) :
    r.machine.GivesOut (r.inputValues inputs) (inputs.foldl addInput r).machine := by
  induction inputs generalizing r with
  | nil => exact .nil _
  | cons input inputs ih =>
    refine .append ?_ (ih (r.addInput input))
    change r.machine.GivesOut ((r.bindings.insert input.name _).find? input.name).toList _
    rw [SortedMap.find?_insert, if_pos rfl]
    exact .single _ _ _

/-- A call that cannot be made has no value. -/
theorem newValue?_of_error {error : ReplayError} (h : r.step catalog call = .error error) :
    r.newValue? catalog call = none := by
  have hrun : r.aborted = none := by
    by_contra hend
    rw [step, if_pos (Option.isSome_iff_ne_none.2 hend)] at h
    cases h
  cases htarget : call.target.resolve? with
  | none => simp [newValue?, htarget]
  | some function =>
    cases hargs : call.args.mapM r.argument with
    | error name => simp [newValue?, htarget, hargs]
    | ok args =>
      -- With a function and with arguments the call goes through or ends the run.
      simp only [step, hrun, htarget, hargs] at h
      split at h
      · cases h
      · split at h <;> cases h

/-- A call of a reserved slot has no value. -/
theorem newValue?_of_reserved (htarget : call.target.resolve? = some function)
    (hreserved : function.behaviour = .reserved) : r.newValue? catalog call = none := by
  cases hargs : call.args.mapM r.argument with
  | error name => simp [newValue?, htarget, hargs]
  | ok args => simp [newValue?, htarget, hargs, Function.call, hreserved, Except.toOption]

/-- The value of a call that is made. -/
theorem Makes.newValue? (h : r.Makes call function args) (catalog : Catalog) :
    r.newValue? catalog call =
      if function.name ∈ Interface.storageNames ∧ args ≠ [] then none
      else (r.reply catalog function args).value? := by
  simp only [Replay.newValue?, h.running, h.target, h.resolved, Function.call, h.replies, if_false]
  rfl

/-- A call that is made passes on an argument exactly if it asks for storage and has an argument. -/
theorem Makes.passedOn?_eq_none_iff (h : r.Makes call function args) :
    function.behaviour.passedOn? args = none ↔
      ¬ (function.name ∈ Interface.storageNames ∧ args ≠ []) := by
  have hstorage := Interface.storage_iff (Target.mem_of_resolve? h.target)
  rw [← hstorage, Behaviour.passedOn?]
  split
  case isTrue hbehaviour => simp [hbehaviour]
  case isFalse hbehaviour => simp [hbehaviour]

/-- **One call.** Its value has the next handle, if it has a value of its own, and else no handle is
taken. -/
theorem givesOut_step (h : r.step catalog call = .ok r') :
    r.machine.GivesOut (r.newValue? catalog call).toList r'.machine := by
  rcases step_cases h with
    ⟨hend, hsame⟩ | ⟨function, _, htarget, hreserved, rfl⟩ | ⟨function, args, hmade, rfl⟩
  · rw [newValue?, if_pos hend, hsame]
    exact .nil _
  · rw [newValue?_of_reserved htarget hreserved]
    exact .nil _
  · rw [hmade.newValue?]
    -- Storage is passed on without a handle; all else gets one.
    by_cases hpassed : function.name ∈ Interface.storageNames ∧ args ≠ []
    · rw [if_pos hpassed]
      have hsome : function.behaviour.passedOn? args ≠ none :=
        fun hnone => hmade.passedOn?_eq_none_iff.1 hnone hpassed
      obtain ⟨v, hv⟩ := Option.ne_none_iff_exists'.1 hsome
      have hmachine : (r.reply catalog function args).machine = r.machine :=
        Behaviour.machine_of_passedOn? (c := r.view catalog args) hv
      change r.machine.GivesOut [] (r.reply catalog function args).machine
      rw [hmachine]
      exact .nil _
    · rw [if_neg hpassed]
      exact Behaviour.reply_givesOut (c := r.view catalog args)
        (hmade.passedOn?_eq_none_iff.2 hpassed)

/-- **A run.** The values of its calls get their handles one after another, also if it fails in the
end. -/
theorem givesOut_run (r : Replay) (catalog : Catalog) (calls : List RecordedCall) :
    ∃ m, r.machine.GivesOut (r.newValues catalog calls) m := by
  induction calls generalizing r with
  | nil => exact ⟨r.machine, .nil _⟩
  | cons call calls ih =>
    unfold newValues
    cases hstep : r.step catalog call with
    | error error =>
      rw [newValue?_of_error hstep]
      exact ⟨r.machine, .nil _⟩
    | ok s =>
      obtain ⟨m, hrest⟩ := ih s
      exact ⟨m, (givesOut_step hstep).append hrest⟩

/-- The state before the inputs are handed over. -/
def blank (trace : Trace) : Replay :=
  { machine := trace.memory.foldl Machine.mapRegion { pointerBits := trace.pointerBits.toNat } }

end Replay

/-! ### Whole replays -/

namespace Trace

/-- The values that get a handle of their own in a replay, in the order of their handles: those of
the inputs, and those that calls return, other than the storage of an argument. -/
def allocated (trace : Trace) (catalog : Catalog) : List Value :=
  if trace.pointerBits ∈ supportedWidths then
    (Replay.blank trace).inputValues trace.inputs ++
      (Replay.start trace).newValues catalog trace.calls
  else []

/-- All values of a replay get their handles one after another, from a machine that has given out no
wide ones. -/
theorem allocated_givesOut (trace : Trace) (catalog : Catalog) :
    ∃ m m' : Machine, m.wideHandles = 0 ∧ m.GivesOut (trace.allocated catalog) m' := by
  unfold allocated
  split
  case isTrue =>
    have hmap := Machine.SameSupply.foldl_mapRegion { pointerBits := trace.pointerBits.toNat }
      trace.memory
    obtain ⟨m', hcalls⟩ := (Replay.start trace).givesOut_run catalog trace.calls
    have hinputs := (Replay.blank trace).givesOut_inputs trace.inputs
    exact ⟨(Replay.blank trace).machine, m', hmap.wideHandles.symm, hinputs.append hcalls⟩
  case isFalse =>
    exact ⟨{ pointerBits := 0 }, { pointerBits := 0 }, rfl, .nil _⟩

/-- **Allocated handles do not alias.** Let fewer than 2 ^ 63 values get a handle of their own in a
replay: inputs, and what calls return other than the storage of an argument. Then

* the handles of values of at least 32 bits strictly increase in the order in which they are given
  out, so that no two of them are the same;
* the handle of a value of 8 or 16 bits fits that width, and is not the handle of any value of at
  least 32 bits;
* the handles of values of at least 32 bits fit 32 bits, as long as there are fewer than
  2 ^ 32 - 0x70000000 such values. -/
theorem allocated_distinct {trace : Trace} {catalog : Catalog}
    (hcount : (trace.allocated catalog).length < 2 ^ 63) :
    (((trace.allocated catalog).filter Value.isWide).map Value.handle).Pairwise (· < ·) ∧
    (((trace.allocated catalog).filter Value.isWide).map Value.handle).Nodup ∧
    (∀ v ∈ trace.allocated catalog, v.bits = 8 ∨ v.bits = 16 →
      v.handle.toNat < 2 ^ v.bits ∧
        ∀ w ∈ trace.allocated catalog, 32 ≤ w.bits → v.handle ≠ w.handle) ∧
    (((trace.allocated catalog).filter Value.isWide).length < 2 ^ 32 - 0x70000000 →
      ∀ w ∈ trace.allocated catalog, 32 ≤ w.bits → w.handle.toNat < 2 ^ 32) := by
  obtain ⟨m, m', hzero, hgiven⟩ := trace.allocated_givesOut catalog
  generalize trace.allocated catalog = values at hcount hgiven
  have hwide := hgiven.wide
  rw [hzero] at hwide
  have hlength : (values.filter Value.isWide).length < 2 ^ 63 :=
    Nat.lt_of_le_of_lt (List.length_filter_le _ _) hcount
  -- A wide handle has the number of its place behind that of the first one.
  have hplace : ∀ w ∈ values, 32 ≤ w.bits →
      ∃ k < (values.filter Value.isWide).length, w.handle.toNat = 0x70000000 + k := by
    intro w hw hbits
    have hmem : w.handle ∈ (values.filter Value.isWide).map Value.handle :=
      List.mem_map_of_mem (List.mem_filter.2 ⟨hw, decide_eq_true hbits⟩)
    rw [hwide] at hmem
    obtain ⟨k, hk, hhandle⟩ := List.mem_map.1 hmem
    have hlt : k < (values.filter Value.isWide).length := by simpa using hk
    refine ⟨k, hlt, ?_⟩
    rw [← hhandle, Machine.toNat_wideHandle (by omega)]
  have hincreasing : ((values.filter Value.isWide).map Value.handle).Pairwise (· < ·) := by
    rw [hwide, List.pairwise_map]
    refine List.Pairwise.imp_of_mem ?_ List.pairwise_lt_range'
    intro k l hk hl hlt
    have hk' : k < (values.filter Value.isWide).length := by simpa using hk
    have hl' : l < (values.filter Value.isWide).length := by simpa using hl
    rw [UInt64.lt_iff_toNat_lt, Machine.toNat_wideHandle (by omega),
      Machine.toNat_wideHandle (by omega)]
    omega
  refine ⟨hincreasing, hincreasing.imp fun h => UInt64.ne_of_lt h, ?_, ?_⟩
  · intro v hv hbits
    have hfits : v.handle.toNat < 2 ^ v.bits := hgiven.narrow hv (by omega)
    refine ⟨hfits, fun w hw hwbits heq => ?_⟩
    obtain ⟨k, -, hk⟩ := hplace w hw hwbits
    -- Narrow handles are below 2 ^ 16, and the first wide one is 0x70000000.
    have hsmall : v.handle.toNat < 2 ^ 16 := by
      rcases hbits with hbits | hbits <;> rw [hbits] at hfits <;> omega
    rw [heq] at hsmall
    omega
  · intro hfew w hw hbits
    obtain ⟨k, hk, hhandle⟩ := hplace w hw hbits
    omega

/-- A run that is handed an object and a truth value, asks for the storage of the object, compares
it with itself, and makes a reference to it. -/
def sharingTrace : Trace where
  inputs := [⟨"data", .object "[B" false []⟩, ⟨"flag", .primitive "boolean" false []⟩]
  calls := [
    ⟨.function "GetByteArrayElements", [.reference "data"], some "bytes"⟩,
    ⟨.function "IsSameObject", [.reference "data", .reference "data"], none⟩,
    ⟨.function "NewGlobalRef", [.reference "data"], some "data"⟩]

set_option maxRecDepth 20000 in
/-- Four values have a handle of their own. The storage of the object is not among them: it has the
handle of the object. -/
theorem allocated_distinct_sharingTrace :
    (sharingTrace.allocated {}).map (fun v => (v.handle, v.bits)) =
      [(0x70000000, 64), (1, 8), (2, 8), (0x70000001, 64)] ∧
    (((sharingTrace.allocated {}).filter Value.isWide).map Value.handle).Nodup ∧
    ∃ r v, sharingTrace.replay {} = .ok r ∧ r.bindings.find? "bytes" = some v ∧
      v.handle = 0x70000000 := by
  have hvalues : (sharingTrace.allocated {}).map (fun v => (v.handle, v.bits)) =
      [(0x70000000, 64), (1, 8), (2, 8), (0x70000001, 64)] := rfl
  have hcount : (sharingTrace.allocated {}).length < 2 ^ 63 := by
    have hlength := congrArg List.length hvalues
    rw [List.length_map] at hlength
    rw [hlength]
    decide
  exact ⟨hvalues, (allocated_distinct hcount).2.1, _, _, rfl, rfl, rfl⟩

end Trace

end NativeFlow
