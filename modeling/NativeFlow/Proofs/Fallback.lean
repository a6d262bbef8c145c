import NativeFlow.Proofs.Accounting
import NativeFlow.Proofs.WriteBack

namespace NativeFlow

/-!
# Calls that are not covered, and calls that fail

Functions give up at many points: a field id is unknown, a text cannot be read, an argument is
missing. Wherever they do, nothing has happened yet. A call of a reserved slot fails before anything
can happen.

* `Behaviour.effect_of_fallback`: a call that is not covered has no effect.
* `Behaviour.notes_of_fallback`: nothing is known about its result.
* `Replay.Makes.writeBack_same`: arguments that are as before are bound as before.
* `Replay.uncovered_of_step`, `Replay.failed_of_step`: what the counters of a run tell about a call.
* `Replay.fallback_or_fault_intact`: what such calls leave as it is.
-/

/-! ### One call -/

theorem Call.returning?_of_fallback {c : Call} {notes? : Option (List Note)}
    (h : (c.returning? notes?).modeled = false) : c.returning? notes? = c.fallback := by
  cases notes? with
  | none => rfl
  | some notes => cases h

namespace Behaviour

variable {behaviour : Behaviour} {c : Call}

/-- **A call that is not covered has no effect,** wherever the function gave up. -/
theorem effect_of_fallback (h : (behaviour.effect c).modeled = false) :
    behaviour.effect c = c.fallback := by
  cases behaviour with
  | reserved | unconstrained => rfl
  | superclass | newReference | length | newObjectArray | newPrimitiveArray => cases h
  -- These ask for all that they need before they say anything.
  | findClass | defineClass | objectClass | allocObject | newObject | methodId | fieldId |
    toReflectedMethod | toReflectedField | fromReflectedMethod | fromReflectedField |
    newStringUtf | newString | arrayElement => exact Call.returning?_of_fallback h
  | storage =>
    simp only [effect, Call.storage] at h ⊢
    split at h
    case h_1 => rfl
    case h_2 => cases h
  | invoke returns binding passing =>
    simp only [effect, Call.invoke] at h ⊢
    split at h
    case h_1 => rfl
    case h_2 => cases h
  -- Field access gives up late: the field is known by then, but its owner is not.
  | getField kind isStatic =>
    simp only [effect, Call.getField] at h ⊢
    split at h
    case h_1 =>
      split at h
      case h_1 => cases h
      case h_2 => rfl
    case h_2 => rfl
  | setField kind isStatic =>
    simp only [effect, Call.setField] at h ⊢
    split at h
    case h_1 =>
      split at h
      case h_1 => cases h
      case h_2 =>
        split at h
        case h_1 => cases h
        case h_2 => rfl
    case h_2 => rfl
  | registerNatives =>
    simp only [effect, Call.registerNatives] at h ⊢
    split at h
    case h_1 => cases h
    case h_2 => rfl
  | unregisterNatives =>
    simp only [effect, Call.unregisterNatives] at h ⊢
    split at h
    case h_1 => cases h
    case h_2 => rfl

/-- **Nothing is known about the result** of such a call. The storage of an argument would come with
all that is known about it, but if it can be asked for, the call is covered. -/
theorem notes_of_fallback (h : (behaviour.effect c).modeled = false) {w : Value}
    (hw : (behaviour.reply c).value? = some w) : w.notes = [] := by
  rcases reply_cases hw with ⟨rfl, hhead⟩ | hnotes
  · obtain ⟨rest, hargs⟩ := List.head?_eq_some_iff.1 hhead
    simp [effect, Call.storage, hargs, Call.returning] at h
  · rw [hnotes, effect_of_fallback h]
    rfl

end Behaviour

theorem Coverage.fallback_record (coverage : Coverage) (function : String) (handling : Handling) :
    (coverage.record function handling).fallback =
      coverage.fallback + if handling = .fallback then 1 else 0 := by
  cases handling <;> rfl

namespace Replay

variable {catalog : Catalog} {r r' : Replay} {call : RecordedCall}

/-! ### One step -/

/-- Arguments that are as they were before the call are bound as before. -/
theorem Makes.writeBack_same {function : Function} {args : List Value}
    (h : r.Makes call function args) : writeBack r.bindings call.args args = r.bindings := by
  refine SortedMap.ext_find? fun name => ?_
  cases hbound : r.bindings.find? name with
  | some value => rw [find?_writeBack (h.reference hbound), hbound, ite_self]
  | none =>
    -- An argument that has no value would have stopped the call.
    have hother : .reference name ∉ call.args := by
      intro hmem
      obtain ⟨index, hindex⟩ := List.getElem?_of_mem hmem
      obtain ⟨v, -, hv⟩ := h.getElem? hindex
      rw [argument_reference, hbound] at hv
      cases hv
    rw [find?_writeBack_of_not_mem hother, hbound]

/-- A call that is counted as not covered was made, and the function that was called gave up. -/
theorem uncovered_of_step (h : r.step catalog call = .ok r')
    (hcount : r.coverage.fallback < r'.coverage.fallback) :
    ∃ function args, r.Makes call function args ∧
      (function.behaviour.effect (r.view catalog args)).modeled = false ∧
      r' = r.settle call function (r.reply catalog function args) := by
  rcases step_cases h with ⟨-, rfl⟩ | ⟨function, -, -, -, rfl⟩ | ⟨function, args, hmade, rfl⟩
  · exact absurd hcount (Nat.lt_irrefl _)
  · have hsame := r.coverage.fallback_record function.name .fault
    exact absurd hcount (by simp [abort, hsame])
  · refine ⟨function, args, hmade, ?_, rfl⟩
    cases hmodeled : (function.behaviour.effect (r.view catalog args)).modeled with
    | false => rfl
    | true =>
      simp [settle, reply, Behaviour.reply_effect, hmodeled, Coverage.fallback_record] at hcount

/-- A call that is counted as failed leaves everything to the next one but the counters. -/
theorem failed_of_step (h : r.step catalog call = .ok r')
    (hcount : r.coverage.faults < r'.coverage.faults) :
    ∃ function fault, r' = r.abort function fault := by
  rcases step_cases h with ⟨-, rfl⟩ | ⟨function, -, -, -, rfl⟩ | ⟨function, args, -, rfl⟩
  · exact absurd hcount (Nat.lt_irrefl _)
  · exact ⟨function, _, rfl⟩
  · rw [faults_settle] at hcount
    exact absurd hcount (Nat.lt_irrefl _)

/-- **Calls that are not covered and calls that fail leave the state as it is.**

If a function gives up, all arguments and the registered native methods are as before, nothing is
reported, and nothing is known about the value that the call returns, if it returns any.

So a call of a run that is counted as not covered was made, and it leaves the registered native
methods, the reports and all names as they are. Only the name that it gives to its result, if it has
one, is bound to a value about which nothing is known. A call that is counted as failed leaves all
of these and the machine as they are. -/
theorem fallback_or_fault_intact :
    (∀ (f : Function) (c : Call) (reply : Reply), f.call c = .ok reply →
      reply.effect.modeled = false →
        reply.effect.args = c.args ∧ reply.effect.natives = c.natives ∧
        reply.effect.findings = [] ∧ ∀ w, reply.value? = some w → w.notes = []) ∧
    ∀ (catalog : Catalog) (r r' : Replay) (call : RecordedCall), r.step catalog call = .ok r' →
      (r.coverage.fallback < r'.coverage.fallback →
        ∃ function args reply, r.Makes call function args ∧
          function.call (r.view catalog args) = .ok reply ∧
          r'.bindings = bindResult r.bindings call.bind reply.value? ∧
          (∀ w, reply.value? = some w → w.notes = []) ∧
          r'.natives = r.natives ∧ r'.reports = r.reports) ∧
      (r.coverage.faults < r'.coverage.faults →
        r'.machine = r.machine ∧ r'.bindings = r.bindings ∧ r'.natives = r.natives ∧
        r'.reports = r.reports) := by
  refine ⟨fun f c reply hreply hmodeled => ?_, fun catalog r r' call hstep => ⟨?_, ?_⟩⟩
  · obtain rfl := Function.reply_of_call hreply
    rw [Behaviour.reply_effect] at hmodeled ⊢
    have heffect := Behaviour.effect_of_fallback hmodeled
    rw [heffect]
    exact ⟨rfl, rfl, rfl, fun w => Behaviour.notes_of_fallback hmodeled⟩
  · intro hcount
    obtain ⟨function, args, hmade, hmodeled, rfl⟩ := uncovered_of_step hstep hcount
    -- So the values that are written back are those that the call was made with.
    have heffect : (r.reply catalog function args).effect = (r.view catalog args).fallback := by
      rw [reply, Behaviour.reply_effect, Behaviour.effect_of_fallback hmodeled]
    refine ⟨function, args, r.reply catalog function args, hmade, if_neg hmade.replies, ?_,
      fun w => Behaviour.notes_of_fallback hmodeled, ?_, ?_⟩
    · show bindResult (writeBack r.bindings call.args (r.reply catalog function args).effect.args)
        call.bind _ = _
      rw [heffect]
      exact congrArg (bindResult · call.bind _) hmade.writeBack_same
    · show (r.reply catalog function args).effect.natives = r.natives
      rw [heffect]
      rfl
    · show r.reports ++ (r.reply catalog function args).effect.findings.map _ = r.reports
      rw [heffect]
      exact List.append_nil r.reports
  · intro hcount
    obtain ⟨function, fault, rfl⟩ := failed_of_step hstep hcount
    exact ⟨rfl, rfl, rfl, rfl⟩

/-! ### An unknown field and a reserved slot -/

/-- A run that is handed a book. -/
def bookTrace : Trace where
  memory := []
  inputs := [⟨"book", .object "Book" true ["TITLE"]⟩]
  calls := []

/-- A field is read through a field id that was not looked up. -/
def readUnknown : RecordedCall where
  target := .function "GetObjectField"
  args := [.reference "book", .literal 5]
  bind := some "field"

/-- A slot is called that must not be. -/
def callReserved : RecordedCall where
  target := .slot 0
  args := [.reference "book"]

set_option maxRecDepth 20000 in
/-- The book keeps its title when a field that is not known is read, and when a reserved slot ends
the run. -/
theorem fallback_or_fault_intact_book :
    ∃ r r' w, (start bookTrace).step {} readUnknown = .ok r ∧ r.step {} callReserved = .ok r' ∧
      r.bindings = (start bookTrace).bindings.insert "field" w ∧ w.notes = [] ∧
      r'.bindings = r.bindings ∧ r'.machine = r.machine := by
  obtain ⟨r, r', function, hread, huncovered, htarget, hreturns, hcall, hfailed⟩ :
      ∃ r r' function, (start bookTrace).step {} readUnknown = .ok r ∧
        (start bookTrace).coverage.fallback < r.coverage.fallback ∧
        readUnknown.target.resolve? = some function ∧ function.behaviour.returns ≠ .void ∧
        r.step {} callReserved = .ok r' ∧ r.coverage.faults < r'.coverage.faults :=
    ⟨_, _, _, rfl, by decide, rfl, by decide, rfl, by decide⟩
  obtain ⟨-, hsteps⟩ := fallback_or_fault_intact
  obtain ⟨function', args, reply, hmade, hreply, hbindings, hnotes, -, -⟩ :=
    (hsteps _ _ _ _ hread).1 huncovered
  obtain rfl : function = function' := Option.some.inj (htarget.symm.trans hmade.target)
  obtain ⟨w, hw⟩ := Behaviour.exists_value? hreturns ((start bookTrace).view {} args)
  rw [← Function.reply_of_call hreply] at hw
  rw [hw] at hbindings
  obtain ⟨hmachine, hsame, -, -⟩ := (hsteps _ _ _ _ hcall).2 hfailed
  exact ⟨r, r', w, hread, hcall, hbindings, hnotes w hw, hsame, hmachine⟩

end Replay

end NativeFlow
