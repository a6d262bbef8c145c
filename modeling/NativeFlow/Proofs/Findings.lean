import NativeFlow.Proofs.Effect

namespace NativeFlow

/-!
# What a call reports

* `Invocation.observed_findings`: an activity that is started is reported with the state of the
  Intent that starts it, and nothing else that is done to Intents is reported.
* `Invocation.mem_sinkFindings_iff`: which tainted values a sink reports.
* `Behaviour.findings_eq_nil`, `Behaviour.findings_cases`: all that a call can report.
-/

/-- The report of an activity that is started with an Intent in the given state. -/
def Invocation.edge (i : Invocation) (icc : IccState Note) : Finding :=
  .iccEdge i.method.fullSignature icc.activityName icc.extras

namespace Invocation

variable {i : Invocation}

/-- **Started activities.** The method that starts activities reports the state of its first
argument, if that has any. -/
theorem observed_findings (i : Invocation) :
    i.observed.findings =
      if IntentMethod.of? i.method = some .startActivity then
        ((i.arguments.head?.bind Value.icc?).map i.edge).toList
      else [] := by
  unfold observed
  cases IntentMethod.of? i.method with
  | none => rfl
  | some m =>
    -- Three of the methods report nothing, whatever they find in their arguments.
    cases m with
    | setClassName =>
      simp only [IntentMethod.observe, IntentMethod.setClass, Option.some.injEq, reduceCtorEq,
        if_false]
      split
      · split <;> rfl
      · rfl
    | putExtra =>
      simp only [IntentMethod.observe, IntentMethod.addExtra, Option.some.injEq, reduceCtorEq,
        if_false]
      split <;> rfl
    | getStringExtra =>
      simp only [IntentMethod.observe, IntentMethod.readExtra, Option.some.injEq, reduceCtorEq,
        if_false]
      split <;> rfl
    | startActivity =>
      -- The state is asked of the object of the first argument.
      have hstate : i.arguments.head?.bind Value.icc? =
          (i.arguments.head?.bind Value.object?).bind (·.icc) := (Option.bind_assoc ..).symm
      simp only [IntentMethod.observe, IntentMethod.start, if_true, hstate]
      split <;> simp [*, edge]

/-- The same for a single finding. -/
theorem mem_observed_findings_iff {f : Finding} :
    f ∈ i.observed.findings ↔
      ∃ v icc, IntentMethod.of? i.method = some .startActivity ∧ i.arguments.head? = some v ∧
        v.icc? = some icc ∧ f = i.edge icc := by
  rw [observed_findings]
  split
  case isTrue hstart =>
    rw [Option.mem_toList, Option.map_eq_some_iff]
    constructor
    · rintro ⟨icc, hicc, rfl⟩
      obtain ⟨v, hv, hicc⟩ := Option.bind_eq_some_iff.1 hicc
      exact ⟨v, icc, hstart, hv, hicc, rfl⟩
    · rintro ⟨v, icc, -, hv, hicc, rfl⟩
      exact ⟨icc, Option.bind_eq_some_iff.2 ⟨v, hv, hicc⟩, rfl⟩
  case isFalse hother =>
    constructor
    · intro h
      exact absurd h List.not_mem_nil
    · rintro ⟨_, _, hstart, _⟩
      exact absurd hstart hother

/-- The values that sinks watch, in the order of their positions. -/
def watched (i : Invocation) : List Value := i.receiver?.toList ++ i.arguments

/-- A value is reported if it is tainted and at a position that the sink watches. -/
theorem sinkFinding?_eq_some_iff {selector : SinkSelector} {position : Nat} {v : Value}
    {f : Finding} :
    i.sinkFinding? selector position v = some f ↔
      ∃ origin categories, v.taint? = some (.tainted origin categories) ∧
        selector.selects position = true ∧
        f = .taintedSink i.method.fullSignature position categories.toList := by
  unfold sinkFinding?
  cases htaint : v.taint? with
  | none => simp
  | some t =>
    cases t with
    | clean => simp
    | tainted origin categories =>
      by_cases hselects : selector.selects position = true
      · dsimp only
        rw [if_pos hselects, Option.some.injEq]
        constructor
        · rintro rfl
          exact ⟨origin, categories, rfl, hselects, rfl⟩
        · rintro ⟨_, _, heq, -, rfl⟩
          cases heq
          rfl
      · simp [hselects]

/-- **Sinks.** A sink reports the tainted values that it is given at the positions it watches. -/
theorem mem_sinkFindings_iff {f : Finding} :
    f ∈ i.sinkFindings ↔
      ∃ selector position v origin categories, i.classification? = some (.sink selector) ∧
        i.watched[position]? = some v ∧ v.taint? = some (.tainted origin categories) ∧
        selector.selects position = true ∧
        f = .taintedSink i.method.fullSignature position categories.toList := by
  unfold sinkFindings positions
  -- The method is a sink, or nothing is reported.
  split
  case h_1 selector hsink =>
    rw [List.mem_filterMap]
    constructor
    · rintro ⟨⟨position, v⟩, hmem, hfinding⟩
      obtain ⟨⟨v', position'⟩, hv, heq⟩ := List.mem_map.1 hmem
      cases heq
      obtain ⟨origin, categories, htaint, hselects, rfl⟩ := sinkFinding?_eq_some_iff.1 hfinding
      have hget : i.watched[position]? = some v := List.mem_zipIdx_iff_getElem?.1 hv
      exact ⟨selector, position, v, origin, categories, hsink, hget, htaint, hselects, rfl⟩
    · rintro ⟨selector', position, v, origin, categories, hsink', hget, htaint, hselects, rfl⟩
      obtain rfl : selector = selector' := by
        rw [hsink] at hsink'
        cases hsink'
        rfl
      refine ⟨(position, v), List.mem_map.2 ⟨(v, position), ?_, rfl⟩, ?_⟩
      · exact List.mem_zipIdx_iff_getElem?.2 hget
      · exact sinkFinding?_eq_some_iff.2 ⟨origin, categories, htaint, hselects, rfl⟩
  case h_2 hnone =>
    constructor
    · intro h
      exact absurd h List.not_mem_nil
    · rintro ⟨selector, _, _, _, _, hsink, _⟩
      exact absurd hsink (hnone selector)

end Invocation

/-! ### All calls -/

/-- Registering native methods reports nothing but rebindings. -/
theorem Registration.rule_of_mem_addRecords {r : Registration} {m : Machine}
    {className : Option String} {base : UInt64} {index count : Nat} {f : Finding}
    (h : f ∈ (r.addRecords m className base index count).findings) :
    f ∈ r.findings ∨ f.rule = .nativeRebind := by
  -- Induction on the records that are left to be read.
  induction count generalizing r index with
  | zero => exact .inl h
  | succ count ih =>
    unfold addRecords at h
    split at h
    case h_1 => exact .inl h
    case h_2 record _ =>
      rcases ih h with hadd | hrule
      · -- The record that was added reports one rebinding at most.
        unfold add at hadd
        dsimp only at hadd
        split at hadd
        · rcases List.mem_cons.1 hadd with rfl | hold
          · exact .inr rfl
          · exact .inl hold
        · exact .inl hadd
      · exact .inr hrule

/-- A call that only returns something reports nothing. -/
theorem Call.returning?_findings (c : Call) (notes? : Option (List Note)) :
    (c.returning? notes?).findings = [] := by
  cases notes? <;> rfl

/-- Whether a function has anything to report. -/
def Behaviour.reports : Behaviour → Bool
  | .invoke _ _ _ | .registerNatives => true
  | _ => false

/-- Most functions report nothing, whichever way they go. -/
theorem Behaviour.findings_eq_nil {behaviour : Behaviour} (h : behaviour.reports = false)
    (c : Call) : (behaviour.effect c).findings = [] := by
  cases behaviour with
  | invoke | registerNatives => cases h
  | getField kind isStatic =>
    simp only [effect, Call.getField]
    split
    · split <;> rfl
    · rfl
  | setField kind isStatic =>
    simp only [effect, Call.setField]
    split
    · split
      · rfl
      · split <;> rfl
    · rfl
  | storage =>
    simp only [effect, Call.storage]
    split <;> rfl
  | unregisterNatives =>
    simp only [effect, Call.unregisterNatives]
    split <;> rfl
  | findClass | defineClass | objectClass | allocObject | newObject | methodId | fieldId |
    toReflectedMethod | toReflectedField | fromReflectedMethod | fromReflectedField |
    newStringUtf | newString | arrayElement => exact c.returning?_findings _
  | reserved | unconstrained | superclass | newReference | length | newObjectArray |
    newPrimitiveArray => rfl

/-- **All that a call can report.** A method call reports started activities and sinks, and the
registration of native methods reports those that are bound anew. -/
theorem Behaviour.findings_cases {behaviour : Behaviour} {c : Call} {f : Finding}
    (h : f ∈ (behaviour.effect c).findings) :
    (∃ returns binding passing i, behaviour = .invoke returns binding passing ∧
      c.invocation? binding = some i ∧ f ∈ i.observed.findings ++ i.sinkFindings) ∨
    f.rule = .nativeRebind := by
  cases hreports : behaviour.reports with
  | false =>
    rw [findings_eq_nil hreports] at h
    exact absurd h List.not_mem_nil
  | true =>
    cases behaviour with
    | invoke returns binding passing =>
      simp only [effect, Call.invoke] at h
      split at h
      case h_1 => exact absurd h List.not_mem_nil
      case h_2 i hi => exact .inl ⟨returns, binding, passing, i, rfl, hi, h⟩
    | registerNatives =>
      simp only [effect, Call.registerNatives] at h
      split at h
      case h_1 =>
        rw [List.mem_reverse] at h
        rcases Registration.rule_of_mem_addRecords h with h | h
        · exact absurd h List.not_mem_nil
        · exact .inr h
      case h_2 => exact absurd h List.not_mem_nil
    | _ => cases hreports

end NativeFlow
