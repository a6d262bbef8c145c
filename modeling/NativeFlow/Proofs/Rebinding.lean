import NativeFlow.Proofs.Addressing
import NativeFlow.Proofs.Findings
import NativeFlow.Proofs.History

namespace NativeFlow

/-!
# Native methods never change silently

A registration that binds a native method to another function than before is reported, with the two
functions. What a call reports for a method is a chain of such changes, which leads from the
function before the call to the function after it.

* `Rebinds`: a chain of changes from one function to another.
* `Registry.Traced`: what becomes of a method while changes to it are reported.
* `Registration.traced_add`, `Registration.traced_addRecords`: one record, and all records of a
  call.
* `Behaviour.natives_eq`, `Registry.find?_unregister`: what other calls do to registered methods.
* `Replay.natives_of_step`: what one call does to a registered method, and what it reports.
* `Replay.rebinding_reported`: no call of a run changes a native method silently.
-/

/-! ### Chains of changes -/

/-- `Rebinds first last changes`: the changes, each from one function to another, lead from `first`
to `last`. -/
inductive Rebinds : UInt64 → UInt64 → List (UInt64 × UInt64) → Prop
  | nil (pointer : UInt64) : Rebinds pointer pointer []
  | cons {previous current last : UInt64} {changes : List (UInt64 × UInt64)}
      (hne : previous ≠ current) (h : Rebinds current last changes) :
    Rebinds previous last ((previous, current) :: changes)

/-- A chain goes on where it ends, at `previous`. -/
theorem Rebinds.snoc {first previous current : UInt64} {changes : List (UInt64 × UInt64)}
    (h : Rebinds first previous changes) (hne : previous ≠ current) :
    Rebinds first current (changes ++ [(previous, current)]) := by
  -- `Rebinds` grows at the front and a registration reports at the end: induction on the chain.
  induction h with
  | nil pointer => exact .cons hne (.nil current)
  | cons hchange _ ih => exact .cons hchange (ih hne)

/-- The change of the native method `key` that a finding reports. -/
def Finding.change? (key : NativeKey) : Finding → Option (UInt64 × UInt64)
  | .nativeRebind name signature _ previous current =>
    if key = ⟨name, signature⟩ then some (previous, current) else none
  | _ => none

/-- Only findings of the rule `nativeRebind` report a change. -/
theorem Finding.rule_of_change? {key : NativeKey} {f : Finding} {change : UInt64 × UInt64}
    (h : f.change? key = some change) : f.rule = .nativeRebind := by
  cases f with
  | nativeRebind => rfl
  | iccEdge | taintedSink => cases h

/-! ### Registration -/

namespace Registry

/-- The function that the native method `key` is bound to. -/
def pointer? (registry : Registry) (key : NativeKey) : Option UInt64 :=
  (registry.find? key).map (·.pointer)

/-- `Traced before after changes`: what becomes of a method while `changes` to it are reported. It
stays unbound, it gets bound, or it is bound all the time. Once it is bound, the changes are a chain
that ends in its function. -/
inductive Traced : Option UInt64 → Option UInt64 → List (UInt64 × UInt64) → Prop
  | unbound : Traced none none []
  | new {first last : UInt64} {changes : List (UInt64 × UInt64)} (h : Rebinds first last changes) :
    Traced none (some last) changes
  | bound {first last : UInt64} {changes : List (UInt64 × UInt64)}
      (h : Rebinds first last changes) : Traced (some first) (some last) changes

/-- A method that nothing is reported of stays as it is. -/
theorem traced_same (pointer? : Option UInt64) : Traced pointer? pointer? [] := by
  cases pointer? with
  | none => exact .unbound
  | some pointer => exact .bound (.nil pointer)

variable {before : Option UInt64} {previous current : UInt64} {changes : List (UInt64 × UInt64)}

/-- A method that has no function yet gets one without a change being reported. -/
theorem Traced.register (h : Traced before none changes) (current : UInt64) :
    Traced before (some current) changes := by
  cases h
  exact .new (.nil current)

/-- A method that is bound to `current` instead of `previous` has one change more. -/
theorem Traced.rebind (h : Traced before (some previous) changes) (hne : previous ≠ current) :
    Traced before (some current) (changes ++ [(previous, current)]) := by
  cases h with
  | new h => exact .new (h.snoc hne)
  | bound h => exact .bound (h.snoc hne)

end Registry

namespace Registration

/-- The changes of the native method `key` that have been reported so far, in their order. Findings
are collected with the last one first. -/
def changes (r : Registration) (key : NativeKey) : List (UInt64 × UInt64) :=
  r.findings.reverse.filterMap (·.change? key)

/-- `Registration.add` binds the method of the record to the function of the record, and no other.
-/
theorem pointer?_add (r : Registration) (className : Option String) (record : NativeRecord)
    (key : NativeKey) :
    (r.add className record).natives.pointer? key =
      if key = record.key then some record.pointer else r.natives.pointer? key := by
  simp only [add, Registry.pointer?, Registry.find?_register]
  split <;> rfl

/-- `Registration.add` reports a change exactly if the method of the record was bound to another
function, which is what `Registry.rebound?` says. -/
theorem changes_add (r : Registration) (className : Option String) (record : NativeRecord)
    (key : NativeKey) :
    (r.add className record).changes key =
      r.changes key ++
        if key = record.key then
          ((r.natives.rebound? key record.pointer).map fun previous =>
            (previous, record.pointer)).toList
        else [] := by
  unfold changes add
  by_cases hkey : key = record.key
  · subst hkey
    cases hrebound : r.natives.rebound? record.key record.pointer with
    | none => simp
    | some previous => simp [Finding.change?]
  · rw [if_neg hkey]
    cases r.natives.rebound? record.key record.pointer with
    | none => simp
    | some previous =>
      -- A change of another method is none of this one.
      have hother : Finding.change? key (.nativeRebind record.key.name record.key.signature
          className previous record.pointer) = none := if_neg hkey
      simp [hother]

/-- **One record.** If what has been reported so far is the trace of the method `key`, it still is
after `Registration.add`. -/
theorem traced_add {r : Registration} {before : Option UInt64} {key : NativeKey}
    (h : Registry.Traced before (r.natives.pointer? key) (r.changes key))
    (className : Option String) (record : NativeRecord) :
    Registry.Traced before ((r.add className record).natives.pointer? key)
      ((r.add className record).changes key) := by
  rw [pointer?_add, changes_add]
  by_cases hkey : key = record.key
  · rw [if_pos hkey, if_pos hkey, Registry.rebound?]
    -- `rebound?` filters the bound function, which is `pointer?` by definition.
    change Registry.Traced before _ (_ ++ (Option.map _
      ((r.natives.pointer? key).filter (· ≠ record.pointer))).toList)
    cases hpointer : r.natives.pointer? key with
    | none =>
      rw [hpointer] at h
      simpa using h.register record.pointer
    | some previous =>
      rw [hpointer] at h
      -- A record for the function that is bound already is no change.
      by_cases hsame : previous = record.pointer
      · subst hsame
        simpa [Option.filter] using h
      · have hchange := h.rebind hsame
        simpa [Option.filter, hsame] using hchange
  · rw [if_neg hkey, if_neg hkey, List.append_nil]
    exact h

/-- **All records.** The changes that `Registration.addRecords` reports are the trace of the method
`key`, wherever the registration stops. -/
theorem traced_addRecords {r : Registration} {before : Option UInt64} {key : NativeKey}
    (h : Registry.Traced before (r.natives.pointer? key) (r.changes key)) (m : Machine)
    (className : Option String) (base : UInt64) (index count : Nat) :
    Registry.Traced before ((r.addRecords m className base index count).natives.pointer? key)
      ((r.addRecords m className base index count).changes key) := by
  -- Induction on the records left; one that cannot be read ends the registration early.
  induction count generalizing r index with
  | zero => exact h
  | succ count ih =>
    unfold addRecords
    split
    case h_1 => exact h
    case h_2 record _ => exact ih (traced_add h className record) (index + 1)

end Registration

/-- A whole registration starts with nothing reported, so its findings are the trace of each method.
-/
theorem Call.traced_registerNatives (c : Call) (key : NativeKey) :
    Registry.Traced (c.natives.pointer? key) (c.registerNatives.natives.pointer? key)
      (c.registerNatives.findings.filterMap (·.change? key)) := by
  unfold registerNatives
  split
  case h_1 =>
    have hnone : Registration.changes { natives := c.natives } key = [] := rfl
    have hstart := Registry.traced_same (c.natives.pointer? key)
    rw [← hnone] at hstart
    exact Registration.traced_addRecords (r := { natives := c.natives }) hstart _ _ _ _ _
  case h_2 => exact Registry.traced_same _

/-! ### Other calls -/

/-- Looking up in the kept entries is looking up and then asking whether the entry is kept. The keys
are sorted, so none occurs twice. -/
theorem Assoc.find?_filter {κ α : Type} [Ord κ] [Std.TransOrd κ] [Std.LawfulEqOrd κ]
    {entries : List (κ × α)} (h : Sorted entries) (keep : κ → α → Bool) (key : κ) :
    find? key (entries.filter fun entry => keep entry.1 entry.2) =
      (find? key entries).filter (keep key) := by
  induction entries with
  | nil => rfl
  | cons entry rest ih =>
    obtain ⟨k, v⟩ := entry
    obtain ⟨hhead, hrest⟩ := List.pairwise_cons.1 h
    by_cases hkey : compare key k = .eq
    · obtain rfl := Std.compare_eq_iff_eq.1 hkey
      by_cases hkeep : keep key v = true
      · simp [find?, hkeep, Option.filter]
      · -- Without this entry the key is not bound, for all others have larger keys.
        have hnone : find? key (rest.filter fun entry => keep entry.1 entry.2) = none :=
          find?_eq_none_of_lt fun other hmem => hhead other (List.mem_filter.1 hmem).1
        simp [find?, hkeep, hnone, Option.filter]
    · by_cases hkeep : keep k v = true
      · simp [find?, hkey, hkeep, ih hrest]
      · simp [find?, hkey, hkeep, ih hrest]

/-- `Registry.unregister` drops the methods of the class and leaves all others as they are. -/
theorem Registry.find?_unregister (registry : Registry) (className : String) (key : NativeKey) :
    (registry.unregister className).find? key =
      (registry.find? key).filter fun binding => binding.className ≠ some className :=
  Assoc.find?_filter registry.bindings.sorted
    (fun _ binding => binding.className ≠ some className) key

/-- Functions other than `registerNatives` and `unregisterNatives` leave the registered methods as
they are. -/
theorem Behaviour.natives_eq {behaviour : Behaviour} (hregister : behaviour ≠ .registerNatives)
    (hunregister : behaviour ≠ .unregisterNatives) (c : Call) :
    (behaviour.effect c).natives = c.natives := by
  have hreturning (notes? : Option (List Note)) : (c.returning? notes?).natives = c.natives := by
    cases notes? <;> rfl
  cases behaviour with
  | registerNatives => exact absurd rfl hregister
  | unregisterNatives => exact absurd rfl hunregister
  | invoke returns binding passing =>
    simp only [effect, Call.invoke]
    split <;> rfl
  | getField kind isStatic =>
    simp only [effect, Call.getField]
    split
    · split <;> rfl
    · rfl
  | setField kind isStatic =>
    simp only [effect, Call.setField]
    split
    · split
      · rfl
      · split <;> rfl
    · rfl
  | storage =>
    simp only [effect, Call.storage]
    split <;> rfl
  | findClass | defineClass | objectClass | allocObject | newObject | methodId | fieldId |
    toReflectedMethod | toReflectedField | fromReflectedMethod | fromReflectedField |
    newStringUtf | newString | arrayElement => exact hreturning _
  | reserved | unconstrained | superclass | newReference | length | newObjectArray |
    newPrimitiveArray => rfl

/-- `Call.unregisterNatives` drops the methods of the class that its first argument stands for, and
without a class none. -/
theorem Call.find?_unregisterNatives (c : Call) (key : NativeKey) :
    c.unregisterNatives.natives.find? key =
      (c.natives.find? key).filter fun binding =>
        c.classArg? 0 = none ∨ binding.className ≠ c.classArg? 0 := by
  unfold unregisterNatives
  cases c.classArg? 0 with
  | none => cases hfind : c.natives.find? key <;> simp [Call.fallback, hfind, Option.filter]
  | some className =>
    simpa [Registry.dropClass] using c.natives.find?_unregister className key

/-- Only `registerNatives` reports that a native method has changed. -/
theorem Behaviour.rule_ne_nativeRebind {behaviour : Behaviour}
    (hregister : behaviour ≠ .registerNatives) {c : Call} {f : Finding}
    (h : f ∈ (behaviour.effect c).findings) : f.rule ≠ .nativeRebind := by
  cases hreports : behaviour.reports with
  | false =>
    rw [findings_eq_nil hreports] at h
    exact absurd h List.not_mem_nil
  | true =>
    cases behaviour with
    | registerNatives => exact absurd rfl hregister
    | invoke returns binding passing =>
      simp only [effect, Call.invoke] at h
      split at h
      case h_1 => exact absurd h List.not_mem_nil
      case h_2 i _ =>
        -- A method call reports edges and sinks, each of a rule of its own.
        rcases List.mem_append.1 h with hedge | hsink
        · obtain ⟨_, _, _, _, _, rfl⟩ := Invocation.mem_observed_findings_iff.1 hedge
          simp [Invocation.edge, Finding.rule]
        · obtain ⟨_, _, _, _, _, _, _, _, _, rfl⟩ := Invocation.mem_sinkFindings_iff.1 hsink
          simp [Finding.rule]
    | _ => cases hreports

/-- A function other than `registerNatives` changes no method: those that are bound after the call
were bound in the same way before it. -/
theorem Behaviour.bound_of_bound {behaviour : Behaviour}
    (hregister : behaviour ≠ .registerNatives) {c : Call} {key : NativeKey}
    {binding : NativeBinding} (h : (behaviour.effect c).natives.find? key = some binding) :
    c.natives.find? key = some binding := by
  by_cases hunregister : behaviour = .unregisterNatives
  · subst hunregister
    rw [effect, Call.find?_unregisterNatives] at h
    exact (Option.filter_eq_some_iff.1 h).1
  · rw [natives_eq hregister hunregister] at h
    exact h

/-- A method that a call unbinds is of the class whose methods the call drops. -/
theorem Behaviour.unregisters_of_unbound {behaviour : Behaviour} {c : Call} {key : NativeKey}
    {binding : NativeBinding} (hbefore : c.natives.find? key = some binding)
    (hafter : (behaviour.effect c).natives.find? key = none) :
    behaviour = .unregisterNatives ∧
      ∃ className, c.classArg? 0 = some className ∧ binding.className = some className := by
  by_cases hregister : behaviour = .registerNatives
  · -- A method that is bound stays bound in a registration.
    subst hregister
    have htraced := c.traced_registerNatives key
    rw [Registry.pointer?, Registry.pointer?, hbefore] at htraced
    change c.registerNatives.natives.find? key = none at hafter
    rw [hafter] at htraced
    cases htraced
  · by_cases hunregister : behaviour = .unregisterNatives
    · subst hunregister
      refine ⟨rfl, ?_⟩
      rw [effect, Call.find?_unregisterNatives, hbefore, Option.filter_eq_none_iff] at hafter
      have hclass := hafter binding rfl
      simp only [decide_eq_true_eq, not_or, not_not] at hclass
      obtain ⟨className, hname⟩ := Option.ne_none_iff_exists'.1 hclass.1
      exact ⟨className, hname, hclass.2.trans hname⟩
    · rw [natives_eq hregister hunregister, hbefore] at hafter
      cases hafter

/-- What `behaviour.effect` reports is the trace of every method that is bound after it. For a
method that is dropped there is none, and nothing to report. -/
theorem Behaviour.traced_effect (behaviour : Behaviour) {c : Call} {key : NativeKey}
    {pointer : UInt64} (h : (behaviour.effect c).natives.pointer? key = some pointer) :
    Registry.Traced (c.natives.pointer? key) (some pointer)
      ((behaviour.effect c).findings.filterMap (·.change? key)) := by
  by_cases hregister : behaviour = .registerNatives
  · subst hregister
    have htraced := c.traced_registerNatives key
    change c.registerNatives.natives.pointer? key = some pointer at h
    rw [h] at htraced
    exact htraced
  · have hnone : (behaviour.effect c).findings.filterMap (·.change? key) = [] := by
      refine List.filterMap_eq_nil_iff.2 fun f hmem => ?_
      by_contra hchange
      obtain ⟨change, hchange⟩ := Option.ne_none_iff_exists'.1 hchange
      exact rule_ne_nativeRebind hregister hmem (Finding.rule_of_change? hchange)
    obtain ⟨binding, hbinding, rfl⟩ := Option.map_eq_some_iff.1 h
    have hbefore : c.natives.pointer? key = some binding.pointer := by
      rw [Registry.pointer?, bound_of_bound hregister hbinding, Option.map_some]
    rw [hnone, hbefore]
    exact .bound (.nil _)

/-! ### Names of the functions -/

namespace Interface

variable {f : Function}

set_option maxRecDepth 100000 in
/-- The one function whose behaviour is `registerNatives` is `RegisterNatives`, by a look at all
rows. -/
theorem registerNatives_iff (h : f ∈ functions) :
    f.behaviour = .registerNatives ↔ f.name = "RegisterNatives" := by
  have hrows : ∀ row ∈ rows, row.2.2 = .registerNatives ↔ row.1 = "RegisterNatives" := by
    decide +kernel
  exact hrows _ (List.mem_of_getElem? (row_of_mem h))

set_option maxRecDepth 100000 in
/-- The one function whose behaviour is `unregisterNatives` is `UnregisterNatives`. -/
theorem unregisterNatives_iff (h : f ∈ functions) :
    f.behaviour = .unregisterNatives ↔ f.name = "UnregisterNatives" := by
  have hrows : ∀ row ∈ rows, row.2.2 = .unregisterNatives ↔ row.1 = "UnregisterNatives" := by
    decide +kernel
  exact hrows _ (List.mem_of_getElem? (row_of_mem h))

end Interface

/-! ### Runs -/

namespace Replay

/-- The changes of the native method `key` that the call with the given index has reported. -/
def changes (r : Replay) (index : Nat) (key : NativeKey) : List (UInt64 × UInt64) :=
  (r.findingsOf index).filterMap (·.change? key)

variable {catalog : Catalog} {trace : Trace} {before : List RecordedCall} {call : RecordedCall}
  {s s' : Replay}

/-- **All that `Replay.step` does to native methods:** nothing at all, or what the call does that is
made. -/
theorem natives_of_step (h : (start trace).run catalog before = .ok s)
    (hstep : s.step catalog call = .ok s') :
    (s'.natives = s.natives ∧ s'.findingsOf before.length = []) ∨
    ∃ function args, s.Makes call function args ∧
      s'.natives = (function.behaviour.effect (s.view catalog args)).natives ∧
      s'.findingsOf before.length =
        (function.behaviour.effect (s.view catalog args)).findings := by
  have hnone := findingsOf_eq_nil h
  -- The run is over, the call ends it, or the call is made.
  rcases step_cases hstep with
    ⟨_, rfl⟩ | ⟨function, _, _, _, rfl⟩ | ⟨function, args, hmade, rfl⟩
  · exact .inl ⟨rfl, hnone⟩
  · exact .inl ⟨rfl, hnone⟩
  · refine .inr ⟨function, args, hmade, ?_, ?_⟩
    · rw [← Behaviour.reply_effect]
      rfl
    · rw [findingsOf_settled h hmade.running (run_nil catalog _), reply, Behaviour.reply_effect]

/-- **Native methods never change silently.** Take any call of any run, and any native method.

* If the method is bound before and after the call, the changes of it that the call reports are a
  chain from the function before to the function after: each change is from one function to another,
  the next one starts where it ends, and there is none only if the function is the same.
* If it is bound after the call but not before, the changes are a chain that ends in its function.
* If it is bound before the call but not after, the call drops the methods of a class, and the
  method was registered for that class.
* A call that does not register methods reports no change of any method, and whatever is bound after
  it was bound in the same way before. -/
theorem rebinding_reported (h : (start trace).run catalog before = .ok s)
    (hstep : s.step catalog call = .ok s') (key : NativeKey) :
    (∀ p q, s.natives.pointer? key = some p → s'.natives.pointer? key = some q →
      Rebinds p q (s'.changes before.length key)) ∧
    (∀ q, s.natives.pointer? key = none → s'.natives.pointer? key = some q →
      ∃ first, Rebinds first q (s'.changes before.length key)) ∧
    (∀ binding, s.natives.find? key = some binding → s'.natives.find? key = none →
      ∃ function args classValue className, s.Makes call function args ∧
        function.name = "UnregisterNatives" ∧ args[0]? = some classValue ∧
        classValue.className? = some className ∧ binding.className = some className) ∧
    ((∀ function, call.target.resolve? = some function → function.name ≠ "RegisterNatives") →
      (∀ finding ∈ s'.findingsOf before.length, finding.rule ≠ .nativeRebind) ∧
      ∀ binding, s'.natives.find? key = some binding → s.natives.find? key = some binding) := by
  rcases natives_of_step h hstep with
    ⟨hnatives, hfindings⟩ | ⟨function, args, hmade, hnatives, hfindings⟩
  · -- The call is not made, or it ends the run.
    rw [changes, hnatives, hfindings]
    refine ⟨?_, ?_, ?_, ?_⟩
    · intro p q hp hq
      obtain rfl : p = q := Option.some.inj (hp.symm.trans hq)
      exact .nil p
    · intro q hnone hq
      rw [hnone] at hq
      cases hq
    · intro binding hbefore hafter
      rw [hbefore] at hafter
      cases hafter
    · exact fun _ => ⟨fun finding hmem => absurd hmem List.not_mem_nil, fun _ hbinding => hbinding⟩
  · have hmem := Target.mem_of_resolve? hmade.target
    rw [changes, hnatives, hfindings]
    refine ⟨?_, ?_, ?_, ?_⟩
    · intro p q hp hq
      have htraced := function.behaviour.traced_effect hq
      change Registry.Traced (s.natives.pointer? key) _ _ at htraced
      rw [hp] at htraced
      cases htraced with
      | bound hchain => exact hchain
    · intro q hnone hq
      have htraced := function.behaviour.traced_effect hq
      change Registry.Traced (s.natives.pointer? key) _ _ at htraced
      rw [hnone] at htraced
      cases htraced with
      | new hchain => exact ⟨_, hchain⟩
    · intro binding hbefore hafter
      obtain ⟨hbehaviour, className, hclass, hrecorded⟩ :=
        Behaviour.unregisters_of_unbound (c := s.view catalog args) hbefore hafter
      obtain ⟨classValue, hvalue, hname⟩ := Option.bind_eq_some_iff.1 hclass
      exact ⟨function, args, classValue, className, hmade,
        (Interface.unregisterNatives_iff hmem).1 hbehaviour, hvalue, hname, hrecorded⟩
    · intro hother
      have hregister : function.behaviour ≠ .registerNatives := fun hbehaviour =>
        hother function hmade.target ((Interface.registerNatives_iff hmem).1 hbehaviour)
      exact ⟨fun finding hfinding => Behaviour.rule_ne_nativeRebind hregister hfinding,
        fun binding hbinding =>
          Behaviour.bound_of_bound (c := s.view catalog args) hregister hbinding⟩

/-- A run that has a class, the name and the descriptor of a method, and records for three
functions of it. -/
def recordsTrace : Trace where
  memory := [⟨4096, .text "run"⟩, ⟨4160, .text "()V"⟩,
    ⟨4224, .words [4096, 4160, 0x1000, 4096, 4160, 0x2000, 4096, 4160, 0x3000]⟩]
  inputs := [⟨"class", .classObject "Worker"⟩]

/-- The call that registers some records of the run. -/
def registerRecords (base count : UInt64) : RecordedCall where
  target := .function "RegisterNatives"
  args := [.reference "class", .address base, .literal count]

set_option maxRecDepth 20000 in
/-- One call registers the second and the third function after another has registered the first.
Both changes are reported. -/
theorem rebinding_reported_records :
    ∃ s s', (start recordsTrace).run {} [registerRecords 4224 1] = .ok s ∧
      s.step {} (registerRecords 4248 2) = .ok s' ∧
      s'.changes 1 ⟨"run", "()V"⟩ = [(0x1000, 0x2000), (0x2000, 0x3000)] ∧
      Rebinds 0x1000 0x3000 (s'.changes 1 ⟨"run", "()V"⟩) := by
  have hcalls : (((start recordsTrace).run {} [registerRecords 4224 1]).toOption.bind fun s =>
      (s.step {} (registerRecords 4248 2)).toOption.map fun s' =>
        (s.natives.pointer? ⟨"run", "()V"⟩, s'.natives.pointer? ⟨"run", "()V"⟩,
          s'.changes 1 ⟨"run", "()V"⟩)) =
      some (some 0x1000, some 0x3000, [(0x1000, 0x2000), (0x2000, 0x3000)]) := by
    decide +kernel
  obtain ⟨s, hs, hlast⟩ := Option.bind_eq_some_iff.1 hcalls
  obtain ⟨s', hs', heq⟩ := Option.map_eq_some_iff.1 hlast
  simp only [Prod.mk.injEq] at heq
  obtain ⟨hbefore, hafter, hchanges⟩ := heq
  have hrun := toOption_eq_some_iff.1 hs
  have hstep := toOption_eq_some_iff.1 hs'
  have hchain := (rebinding_reported hrun hstep ⟨"run", "()V"⟩).1 _ _ hbefore hafter
  exact ⟨s, s', hrun, hstep, hchanges, hchain⟩

end Replay

end NativeFlow
