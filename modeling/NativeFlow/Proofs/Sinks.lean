import NativeFlow.Interface.Table
import NativeFlow.Proofs.ByteOrder
import NativeFlow.Proofs.Findings
import NativeFlow.Proofs.Frame
import NativeFlow.Proofs.List

namespace NativeFlow

/-!
# Tainted values that reach sinks

A sink numbers the values that it is given: the object that the method is called on comes first, if
there is one, and the arguments of the method follow. Classes and method ids have no number. Every
number that the catalog asks for is looked at, before or after the call has changed anything.

* `Binding.argumentAt`: which argument of the interface function has a number.
* `Invocation.getElem?_watched`: the values that are looked at are these arguments.
* `Invocation.sinkFindings_of_keeps`: nothing that a call changes matters to sinks.
* `Invocation.pairwise_sinkPosition`: the numbers that are reported increase.
* `Behaviour.sinkFindings_cases`: only method calls report anything about sinks.
* `Function.sinks_reported_iff`: what a call reports about sinks.
-/

/-- Which argument of the interface function has a number. The object comes before the method id, or
before the class and the method id. -/
def Binding.argumentAt : Binding → Nat → Nat
  | .virtual, 0 | .nonvirtual, 0 => 0
  | .virtual, position + 1 => position + 2
  | .nonvirtual, position + 1 => position + 3
  | .static, position => position + 2

/-- The number of the value that reaches a sink. -/
def Finding.sinkPosition? : Finding → Option Nat
  | .taintedSink _ position _ => some position
  | _ => none

/-! ### Method calls -/

namespace Invocation

variable {i : Invocation}

/-- The value with a number is the argument at `argumentAt` of that number. -/
theorem getElem?_watched (hargs : i.args ≠ []) (position : Nat) :
    i.watched[position]? = i.args[i.binding.argumentAt position]? := by
  obtain ⟨method, binding, args, catalog⟩ := i
  obtain ⟨v, rest, rfl⟩ := List.exists_cons_of_ne_nil hargs
  -- Without an object the numbers start behind the class and the method id.
  cases binding with
  | static =>
    show ((v :: rest).drop 2)[position]? = (v :: rest)[position + 2]?
    rw [List.getElem?_drop, Nat.add_comm]
  | virtual =>
    cases position with
    | zero => rfl
    | succ position =>
      show ((v :: rest).drop 2)[position]? = (v :: rest)[position + 2]?
      rw [List.getElem?_drop, Nat.add_comm]
  | nonvirtual =>
    cases position with
    | zero => rfl
    | succ position =>
      show ((v :: rest).drop 3)[position]? = (v :: rest)[position + 3]?
      rw [List.getElem?_drop, Nat.add_comm]

/-- The arguments keep all but their fields and the state of Intents. -/
theorem keeps_observed (i : Invocation) : List.Forall₂ Value.Keeps i.args i.observed.args := by
  have hrefl := List.forall₂_same.2 fun v (_ : v ∈ i.args) => Value.Keeps.refl v
  rw [observed_args]
  cases i.update? with
  | none => exact hrefl
  | some update =>
    show List.Forall₂ Value.Keeps i.args (i.args.modifyHead (·.tell update))
    cases hargs : i.args with
    | nil => exact .nil
    | cons v rest =>
      rw [hargs] at hrefl
      exact .cons (v.keeps_tell update) (List.forall₂_cons.1 hrefl).2

/-- A sink looks at all watched values in their order. -/
theorem sinkFindings_of_sink {selector : SinkSelector}
    (h : i.classification? = some (.sink selector)) :
    i.sinkFindings =
      i.watched.zipIdx.filterMap fun entry => i.sinkFinding? selector entry.2 entry.1 := by
  unfold sinkFindings positions
  rw [h]
  dsimp only
  rw [List.filterMap_map]
  rfl

/-- A method that is no sink reports nothing. -/
theorem sinkFindings_of_other (h : ∀ selector, i.classification? ≠ some (.sink selector)) :
    i.sinkFindings = [] := by
  unfold sinkFindings
  split
  case h_1 selector hsink => exact absurd hsink (h selector)
  case h_2 => rfl

/-- **Nothing that a call changes matters to sinks.** -/
theorem sinkFindings_of_keeps {args : List Value} (h : List.Forall₂ Value.Keeps i.args args) :
    ({ i with args } : Invocation).sinkFindings = i.sinkFindings := by
  have hreceiver : Option.Rel Value.Keeps i.receiver? ({ i with args } : Invocation).receiver? := by
    unfold receiver?
    split
    · exact rel_head? h
    · exact .none
  -- The watched values are picked by position, so they are kept one by one.
  have hwatched : List.Forall₂ Value.Keeps i.watched ({ i with args } : Invocation).watched :=
    List.rel_append (rel_toList hreceiver) (List.forall₂_drop i.binding.firstArgument h)
  by_cases hsink : ∃ selector, i.classification? = some (.sink selector)
  · obtain ⟨selector, hsink⟩ := hsink
    rw [sinkFindings_of_sink hsink, sinkFindings_of_sink (i := { i with args }) hsink]
    -- A sink asks for nothing but the taint of a value.
    refine filterMap_zipIdx_congr (fun v v' position hkeeps => ?_) hwatched 0
    simp only [sinkFinding?, hkeeps.taint?]
  · have hother : ∀ selector, i.classification? ≠ some (.sink selector) := not_exists.1 hsink
    rw [sinkFindings_of_other hother, sinkFindings_of_other (i := { i with args }) hother]

/-- **The numbers increase,** so none is reported twice. -/
theorem pairwise_sinkPosition (i : Invocation) :
    (i.sinkFindings.filterMap Finding.sinkPosition?).Pairwise (· < ·) := by
  by_cases hsink : ∃ selector, i.classification? = some (.sink selector)
  · obtain ⟨selector, hsink⟩ := hsink
    -- Whatever is reported about a value has the number of the value.
    have hnumber : ∀ entry : Value × Nat, ∀ position ∈
        (i.sinkFinding? selector entry.2 entry.1).bind Finding.sinkPosition?,
        position = entry.2 := by
      intro entry position hposition
      obtain ⟨f, hf, hposition⟩ := Option.bind_eq_some_iff.1 hposition
      obtain ⟨origin, categories, -, -, rfl⟩ := sinkFinding?_eq_some_iff.1 hf
      exact (Option.some.inj hposition).symm
    rw [sinkFindings_of_sink hsink, List.filterMap_filterMap]
    refine (pairwise_zipIdx i.watched 0).filterMap _ fun a b hlt p hp p' hp' => ?_
    rw [hnumber a p hp, hnumber b p' hp']
    exact hlt
  · rw [sinkFindings_of_other (not_exists.1 hsink)]
    exact .nil

/-- A sink reports the tainted arguments that it asks for by number. -/
theorem taintedSink_mem_iff (hargs : i.args ≠ []) {method : String} {position : Nat}
    {categories : List String} :
    .taintedSink method position categories ∈ i.observed.findings ++ i.sinkFindings ↔
      ∃ selector v origin reached, i.classification? = some (.sink selector) ∧
        selector.selects position = true ∧ i.args[i.binding.argumentAt position]? = some v ∧
        v.taint? = some (.tainted origin reached) ∧ method = i.method.fullSignature ∧
        categories = reached.toList := by
  have hedge : Finding.taintedSink method position categories ∉ i.observed.findings := by
    intro hmem
    obtain ⟨_, _, -, -, -, heq⟩ := mem_observed_findings_iff.1 hmem
    cases heq
  rw [List.mem_append, or_iff_right hedge, mem_sinkFindings_iff]
  constructor
  · rintro ⟨selector, position, v, origin, reached, hsink, hv, htaint, hselects, heq⟩
    cases heq
    rw [getElem?_watched hargs] at hv
    exact ⟨selector, v, origin, reached, hsink, hselects, hv, htaint, rfl, rfl⟩
  · rintro ⟨selector, v, origin, reached, hsink, hselects, hv, htaint, rfl, rfl⟩
    rw [← getElem?_watched hargs] at hv
    exact ⟨selector, position, v, origin, reached, hsink, hv, htaint, hselects, rfl⟩

/-- What is reported about Intents has no number. -/
theorem sinkPosition?_of_mem_observed {f : Finding} (h : f ∈ i.observed.findings) :
    f.sinkPosition? = none := by
  obtain ⟨v, icc, -, -, -, rfl⟩ := mem_observed_findings_iff.1 h
  rfl

end Invocation

/-! ### All calls -/

namespace Behaviour

/-- **Only method calls report anything about sinks.** -/
theorem sinkFindings_cases (behaviour : Behaviour) (c : Call) :
    (∃ returns binding passing i, behaviour = .invoke returns binding passing ∧
      c.invocation? binding = some i ∧
      (behaviour.effect c).findings = i.observed.findings ++ i.sinkFindings) ∨
    ((∀ returns binding passing i, behaviour = .invoke returns binding passing →
      c.invocation? binding ≠ some i) ∧
      ∀ f ∈ (behaviour.effect c).findings, f.sinkPosition? = none) := by
  by_cases hinvoke : ∃ returns binding passing i, behaviour = .invoke returns binding passing ∧
      c.invocation? binding = some i
  · obtain ⟨returns, binding, passing, i, rfl, hi⟩ := hinvoke
    refine .inl ⟨returns, binding, passing, i, rfl, hi, ?_⟩
    rw [effect, Call.invoke, hi]
  · refine .inr ⟨fun returns binding passing i hb hi =>
      hinvoke ⟨returns, binding, passing, i, hb, hi⟩, fun f hf => ?_⟩
    rcases findings_cases hf with ⟨returns, binding, passing, i, hb, hi, -⟩ | hrule
    · exact absurd ⟨returns, binding, passing, i, hb, hi⟩ hinvoke
    · cases f with
      | nativeRebind => rfl
      | _ => cases hrule

/-- The same for the functions of the interface, of which only method calls report anything. -/
theorem taintedSink_mem_iff (behaviour : Behaviour) (c : Call) (method : String) (position : Nat)
    (categories : List String) :
    .taintedSink method position categories ∈ (behaviour.effect c).findings ↔
      ∃ returns binding passing m selector v origin reached,
        behaviour = .invoke returns binding passing ∧
        (c.arg? binding.methodIndex).bind Value.method? = some m ∧
        c.catalog.classify m.fullSignature = some (.sink selector) ∧
        selector.selects position = true ∧ c.args[binding.argumentAt position]? = some v ∧
        v.taint? = some (.tainted origin reached) ∧ method = m.fullSignature ∧
        categories = reached.toList := by
  rcases behaviour.sinkFindings_cases c with
    ⟨returns, binding, passing, i, rfl, hi, hfindings⟩ | ⟨hother, hnone⟩
  · obtain ⟨m, hm, rfl⟩ := Option.map_eq_some_iff.1 hi
    -- The method id is an argument, so there are some.
    have hargs : c.args ≠ [] := by
      intro hnil
      simp [Call.arg?, hnil] at hm
    rw [hfindings, Invocation.taintedSink_mem_iff hargs]
    constructor
    · rintro ⟨selector, v, origin, reached, hreached⟩
      exact ⟨returns, binding, passing, m, selector, v, origin, reached, rfl, hm, hreached⟩
    · rintro ⟨_, _, _, m', selector, v, origin, reached, hinvoke, hm', hreached⟩
      cases hinvoke
      obtain rfl : m = m' := Option.some.inj (hm.symm.trans hm')
      exact ⟨selector, v, origin, reached, hreached⟩
  · constructor
    · intro hmem
      cases hnone _ hmem
    · rintro ⟨returns, binding, passing, m, _, _, _, _, hinvoke, hm, -⟩
      refine absurd ?_ (hother returns binding passing ⟨m, binding, c.args, c.catalog⟩ hinvoke)
      rw [Call.invocation?, hm, Option.map_some]

/-- The numbers increase along all that a call reports. -/
theorem pairwise_sinkPosition (behaviour : Behaviour) (c : Call) :
    ((behaviour.effect c).findings.filterMap Finding.sinkPosition?).Pairwise (· < ·) := by
  rcases behaviour.sinkFindings_cases c with
    ⟨returns, binding, passing, i, -, -, hfindings⟩ | ⟨-, hnone⟩
  · have hedges : i.observed.findings.filterMap Finding.sinkPosition? = [] :=
      List.filterMap_eq_nil_iff.2 fun f hf => Invocation.sinkPosition?_of_mem_observed hf
    rw [hfindings, List.filterMap_append, hedges, List.nil_append]
    exact i.pairwise_sinkPosition
  · rw [List.filterMap_eq_nil_iff.2 hnone]
    exact .nil

end Behaviour

/-- **What a call reports about sinks.** A tainted value is reported exactly if the call is a method
call through a method id, the catalog lists the method as a sink, the sink asks for the number of
the value, and the value was tainted when the call was made. The report names the method, the number
of the value and its categories. The name under which the catalog lists the method, and by which the
report names it, is put together from its class, its name and its descriptor.

The numbers increase along the reports, the categories of each are in byte order, and it makes no
difference whether sinks or Intents are looked at first. -/
theorem Function.sinks_reported_iff {f : Function} {c : Call} {reply : Reply}
    (h : f.call c = .ok reply) :
    (∀ method position categories,
      .taintedSink method position categories ∈ reply.effect.findings ↔
        ∃ returns binding passing m selector v origin reached,
          f.behaviour = .invoke returns binding passing ∧
          (c.arg? binding.methodIndex).bind Value.method? = some m ∧
          method = "L" ++ m.className ++ ";." ++ m.methodName ++ ":" ++ m.signature ∧
          c.catalog.classify method = some (.sink selector) ∧
          selector.selects position = true ∧
          c.args[binding.argumentAt position]? = some v ∧
          v.taint? = some (.tainted origin reached) ∧ categories = reached.toList) ∧
    (reply.effect.findings.filterMap Finding.sinkPosition?).Pairwise (· < ·) ∧
    (∀ method position categories,
      .taintedSink method position categories ∈ reply.effect.findings →
        categories.Pairwise fun a b => Utf8.encode a < Utf8.encode b) ∧
    ∀ binding i, c.invocation? binding = some i →
      ({ i with args := i.observed.args } : Invocation).sinkFindings = i.sinkFindings := by
  have heffect : reply.effect = f.behaviour.effect c := by
    rw [reply_of_call h, Behaviour.reply_effect]
  rw [heffect]
  refine ⟨fun method position categories => ?_, f.behaviour.pairwise_sinkPosition c, ?_, ?_⟩
  · rw [f.behaviour.taintedSink_mem_iff c]
    simp only [← MethodIdentity.fullSignature_eq]
    constructor
    · rintro ⟨returns, binding, passing, m, selector, v, origin, reached, hinvoke, hm, hsink,
        hselects, hv, htaint, rfl, hcategories⟩
      exact ⟨returns, binding, passing, m, selector, v, origin, reached, hinvoke, hm, rfl, hsink,
        hselects, hv, htaint, hcategories⟩
    · rintro ⟨returns, binding, passing, m, selector, v, origin, reached, hinvoke, hm, rfl, hsink,
        hselects, hv, htaint, hcategories⟩
      exact ⟨returns, binding, passing, m, selector, v, origin, reached, hinvoke, hm, hsink,
        hselects, hv, htaint, rfl, hcategories⟩
  · intro method position categories hmem
    obtain ⟨_, _, _, _, _, _, _, reached, -, -, -, -, -, -, -, rfl⟩ :=
      (f.behaviour.taintedSink_mem_iff c method position categories).1 hmem
    exact reached.toList_byteOrder
  · intro _ i _
    exact Invocation.sinkFindings_of_keeps i.keeps_observed

/-! ### An extra that is watched -/

namespace Call

/-- The method that puts a text into an Intent, which a catalog lists as a sink. -/
def putText : MethodIdentity :=
  ⟨intentClass, "putExtra", "(Ljava/lang/String;Ljava/lang/String;)Landroid/content/Intent;"⟩

/-- The name under which the catalog lists it. -/
def putTextName : String := "Landroid/content/Intent;.putExtra:" ++
  "(Ljava/lang/String;Ljava/lang/String;)Landroid/content/Intent;"

/-- An object of a class with the given categories. -/
def taintedObject (javaType : String) (categories : List String) : Value :=
  ⟨1, 64, [.object { source := .argument, javaType, taint := Taint.of .argument categories }]⟩

/-- An account number is put into a tainted Intent. -/
def putAccount : Call where
  machine := { pointerBits := 64 }
  catalog := ({} : Catalog).add ⟨putTextName, .sink .all⟩
  natives := {}
  args := [
    taintedObject intentClass ["USER", "MAIL"], ⟨2, 64, [.method putText]⟩,
    ⟨3, 64, [.string ⟨.native, "account"⟩]⟩, taintedObject stringClass ["ACCOUNT"]]

set_option maxRecDepth 20000 in
/-- Both the Intent and the account number are reported, although the call has changed the state of
the Intent. -/
theorem sinks_reported_of_putAccount :
    ∃ function reply, Interface.ofName? "CallObjectMethod" = some function ∧
      function.call putAccount = .ok reply ∧
      .taintedSink putTextName 0 ["MAIL", "USER"] ∈ reply.effect.findings ∧
      .taintedSink putTextName 2 ["ACCOUNT"] ∈ reply.effect.findings ∧
      ∀ categories, .taintedSink putTextName 1 categories ∉ reply.effect.findings := by
  obtain ⟨function, reply, hname, hfunction, hreply⟩ :
      ∃ function reply, Interface.ofName? "CallObjectMethod" = some function ∧
        function.behaviour = .invoke .object .virtual .variadic ∧
        function.call putAccount = .ok reply := ⟨_, _, rfl, rfl, rfl⟩
  obtain ⟨hreported, -⟩ := Function.sinks_reported_iff hreply
  have hsink : putAccount.catalog.classify putTextName = some (.sink .all) := rfl
  refine ⟨function, reply, hname, hreply, ?_, ?_, fun categories hmem => ?_⟩
  · exact (hreported _ _ _).2 ⟨_, _, _, putText, .all, taintedObject intentClass ["USER", "MAIL"],
      .argument, .ofList ["USER", "MAIL"], hfunction, rfl, rfl, hsink, rfl, rfl, rfl, rfl⟩
  · exact (hreported _ _ _).2 ⟨_, _, _, putText, .all, taintedObject stringClass ["ACCOUNT"],
      .argument, .ofList ["ACCOUNT"], hfunction, rfl, rfl, hsink, rfl, rfl, rfl, rfl⟩
  · -- The name of the extra is a text without taint.
    obtain ⟨_, _, _, _, _, v, _, _, hinvoke, -, -, -, -, hv, htaint, -⟩ := (hreported _ _ _).1 hmem
    cases hfunction.symm.trans hinvoke
    obtain rfl : ⟨3, 64, [.string ⟨.native, "account"⟩]⟩ = v := Option.some.inj hv
    cases htaint

end Call

end NativeFlow
