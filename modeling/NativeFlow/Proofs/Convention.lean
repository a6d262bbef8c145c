import Mathlib.Logic.Relation
import NativeFlow.Proofs.Addressing
import NativeFlow.Proofs.Findings
import NativeFlow.Proofs.Run

namespace NativeFlow

/-!
# Calling conventions

What a replay comes to does not depend on how arguments are passed, on how functions are addressed,
or on whether a method is called with a binding that names a class besides the object.

* `Replay.outcome`, `ReplayError.anonymous`: all that a replay comes to but the names of functions.
* `RecordedCall.Rewrites`: the three ways to rewrite a call.
* `RecordedCall.Equivalent`: two calls lead to the same outcome in every state. It is shown of
  rewritten calls one by one (`RecordedCall.Rewrites.equivalent`).
* `Replay.outcome_run`: equivalent calls lead to the same outcome along whole runs.
* `Trace.outcome_rewritten`: the outcome of a trace whose calls have been rewritten.
-/

/-! ### Outcomes -/

/-- What a replay comes to, apart from the names of functions in reports and counters. -/
structure Outcome where
  machine : Machine
  bindings : SortedMap String Value
  natives : Registry
  callIndex : Nat
  traceIndex : Nat
  aborted : Option Abort
  /-- The findings, each with the call that led to it. -/
  findings : List (Nat × Finding)
  modeled : Nat
  fallback : Nat
  faults : Nat

/-- The outcome of the state `r`. -/
def Replay.outcome (r : Replay) : Outcome where
  machine := r.machine
  bindings := r.bindings
  natives := r.natives
  callIndex := r.callIndex
  traceIndex := r.traceIndex
  aborted := r.aborted
  findings := r.reports.map fun report => (report.callIndex, report.finding)
  modeled := r.coverage.modeled
  fallback := r.coverage.fallback
  faults := r.coverage.faults

/-- An error without the name of the function whose argument is not bound. -/
def ReplayError.anonymous : ReplayError → ReplayError
  | .unboundReference callIndex _ name => .unboundReference callIndex "" name
  | other => other

/-- The outcome of a replay that may fail, with its error anonymous. -/
def outcomeOf : Except ReplayError Replay → Except ReplayError Outcome
  | .error e => .error e.anonymous
  | .ok r => .ok r.outcome

/-! ### Rewritten calls -/

/-- The ways to rewrite a call. -/
inductive RecordedCall.Rewrites : RecordedCall → RecordedCall → Prop
  /-- The arguments of a method are passed in another way. -/
  | passing {call : RecordedCall} {target' : Target} {f f' : Function} {returns : Kind}
      {binding : Binding} {passing passing' : Passing}
      (hf : f ∈ Interface.functions) (h : call.target.Addresses f)
      (hname : f.name = Interface.callName returns binding passing)
      (hf' : f' ∈ Interface.functions) (h' : target'.Addresses f')
      (hname' : f'.name = Interface.callName returns binding passing') :
    Rewrites call { call with target := target' }
  /-- The arguments of a constructor are passed in another way. -/
  | construction {call : RecordedCall} {target' : Target} {f f' : Function}
      {passing passing' : Passing} (hf : f ∈ Interface.functions) (h : call.target.Addresses f)
      (hname : f.name = Interface.newObjectName passing)
      (hf' : f' ∈ Interface.functions) (h' : target'.Addresses f')
      (hname' : f'.name = Interface.newObjectName passing') :
    Rewrites call { call with target := target' }
  /-- The same function is addressed in another way. -/
  | address {call : RecordedCall} {target' : Target} {f : Function}
      (hf : f ∈ Interface.functions) (h : call.target.Addresses f) (h' : target'.Addresses f) :
    Rewrites call { call with target := target' }
  /-- A class is named besides the object. -/
  | nonvirtual {target target' : Target} {object method : Argument} {rest : List Argument}
      {bind : Option String} {f f' : Function} {returns : Kind} {passing passing' : Passing}
      (hf : f ∈ Interface.functions) (h : target.Addresses f)
      (hname : f.name = Interface.callName returns .virtual passing)
      (hf' : f' ∈ Interface.functions) (h' : target'.Addresses f')
      (hname' : f'.name = Interface.callName returns .nonvirtual passing') (classHandle : UInt64) :
    Rewrites ⟨target, object :: method :: rest, bind⟩
      ⟨target', object :: .literal classHandle :: method :: rest, bind⟩

/-- Two calls lead to the same outcome in every state. -/
def RecordedCall.Equivalent (call call' : RecordedCall) : Prop :=
  ∀ (catalog : Catalog) (r : Replay),
    outcomeOf (r.step catalog call) = outcomeOf (r.step catalog call')

/-! ### Naming a class -/

/-- A value is put behind the first one. -/
def insertSecond (v : Value) : List Value → List Value
  | [] => []
  | first :: rest => first :: v :: rest

/-- A call with a class behind the object. -/
def Call.naming (c : Call) (k : Value) : Call := { c with args := insertSecond k c.args }

/-- The invocation that has a class behind the object. -/
def Invocation.naming (i : Invocation) (k : Value) : Invocation :=
  { i with binding := .nonvirtual, args := insertSecond k i.args }

namespace Invocation

variable {i : Invocation} (h : i.binding = .virtual) (k : Value)

include h

/-- A class behind the object is not the receiver. -/
theorem receiver?_naming : (i.naming k).receiver? = i.receiver? := by
  obtain ⟨method, binding, args, catalog⟩ := i
  subst h
  cases args <;> rfl

/-- `Invocation.arguments` skips the class: the binding says where the arguments of the method
begin. -/
theorem arguments_naming : (i.naming k).arguments = i.arguments := by
  obtain ⟨method, binding, args, catalog⟩ := i
  subst h
  cases args <;> rfl

/-- The result is what the method and the receiver say. -/
theorem returned?_naming : (i.naming k).returned? = i.returned? := by
  obtain ⟨method, binding, args, catalog⟩ := i
  subst h
  cases args <;> rfl

theorem text?_naming (index : Nat) : (i.naming k).text? index = i.text? index := by
  rw [text?, text?, arguments_naming h]

/-- What a sink watches are the receiver and the arguments, none of which is the class. -/
theorem sinkFindings_naming : (i.naming k).sinkFindings = i.sinkFindings := by
  obtain ⟨method, binding, args, catalog⟩ := i
  subst h
  cases args <;> rfl

end Invocation

/-- What a call does to Intents when it has a class behind the object. -/
def Observation.naming (o : Observation) (k : Value) : Observation :=
  { o with args := insertSecond k o.args }

/-- The receiver stands in front of the class, so it may be replaced before or after naming the
class. -/
theorem Observation.setReceiver_naming (o : Observation) (k : Value)
    (identity : ObjectIdentity Note) :
    (o.naming k).setReceiver identity = (o.setReceiver identity).naming k := by
  obtain ⟨args, returned?, findings⟩ := o
  cases args <;> rfl

namespace IntentMethod

variable {i : Invocation} (h : i.binding = .virtual) (k : Value) (o : Observation)

include h

/-- `setClassName` sees its text and its receiver, and neither depends on the class. -/
theorem setClass_naming : setClass (i.naming k) (o.naming k) = (setClass i o).naming k := by
  unfold setClass
  rw [Invocation.text?_naming h, Invocation.receiver?_naming h]
  -- With the text and the receiver as variables, the two sides differ in their arguments only.
  generalize i.text? 1 = text?
  generalize i.receiver?.bind Value.object? = intent?
  cases text? with
  | none => rfl
  | some activity =>
    cases intent? with
    | none => rfl
    | some intent =>
      dsimp only
      rw [Observation.setReceiver_naming]
      obtain ⟨args, returned?, findings⟩ := o
      cases returned? with
      | none => rfl
      | some n => cases n <;> rfl

/-- `putExtra` sees its texts, its receiver and its arguments. -/
theorem addExtra_naming : addExtra (i.naming k) (o.naming k) = (addExtra i o).naming k := by
  unfold addExtra
  rw [Invocation.text?_naming h, Invocation.receiver?_naming h, Invocation.arguments_naming h]
  generalize i.text? 0 = text?
  generalize i.receiver?.bind Value.object? = intent?
  cases text? with
  | none => rfl
  | some key =>
    cases intent? with
    | none => rfl
    | some intent =>
      dsimp only
      rw [Observation.setReceiver_naming]
      rfl

/-- `getStringExtra` sees its text and the result. -/
theorem readExtra_naming : readExtra (i.naming k) (o.naming k) = (readExtra i o).naming k := by
  unfold readExtra
  rw [Invocation.text?_naming h]
  obtain ⟨args, returned?, findings⟩ := o
  cases returned? with
  | none => rfl
  | some n => cases n <;> rfl

/-- `startActivity` sees the Intent that it is given. -/
theorem start_naming : start (i.naming k) (o.naming k) = (start i o).naming k := by
  unfold start
  rw [Invocation.arguments_naming h]
  generalize (i.arguments.head?.bind Value.object?).bind (·.icc) = icc?
  cases icc? <;> rfl

/-- Any of the four, by the lemma of each. -/
theorem observe_naming (m : IntentMethod) :
    m.observe (i.naming k) (o.naming k) = (m.observe i o).naming k := by
  cases m with
  | setClassName => exact setClass_naming h k o
  | putExtra => exact addExtra_naming h k o
  | getStringExtra => exact readExtra_naming h k o
  | startActivity => exact start_naming h k o

end IntentMethod

/-- **Naming a class** changes nothing about `Invocation.observed` but the arguments. -/
theorem Invocation.observed_naming {i : Invocation} (h : i.binding = .virtual) (k : Value) :
    (i.naming k).observed = i.observed.naming k := by
  have hstart : ({ args := (i.naming k).args, returned? := (i.naming k).returned? } : Observation) =
      Observation.naming { args := i.args, returned? := i.returned? } k := by
    rw [returned?_naming h]
    rfl
  have hmethod : (i.naming k).method = i.method := rfl
  unfold observed
  rw [hstart, hmethod]
  cases IntentMethod.of? i.method with
  | none => rfl
  | some m => exact IntentMethod.observe_naming h k _ m

namespace Call

variable (c : Call) (k : Value)

/-- The method identity is the third argument then, in place of the second. -/
theorem invocation?_naming :
    (c.naming k).invocation? .nonvirtual = (c.invocation? .virtual).map (·.naming k) := by
  have harg : (c.naming k).arg? 2 = c.arg? 1 := by
    obtain ⟨machine, catalog, natives, args⟩ := c
    cases args <;> rfl
  unfold invocation?
  rw [Option.map_map]
  change Option.map _ (((c.naming k).arg? 2).bind Value.method?) = _
  rw [harg]
  rfl

/-- `Call.invoke` does the same, with the class kept among the arguments. -/
theorem invoke_naming :
    (c.naming k).invoke .nonvirtual =
      { c.invoke .virtual with args := insertSecond k (c.invoke .virtual).args } := by
  unfold invoke
  rw [invocation?_naming]
  cases hi : c.invocation? .virtual with
  | none => rfl
  | some i =>
    have hvirtual : i.binding = .virtual := by
      obtain ⟨method, -, rfl⟩ := Option.map_eq_some_iff.1 hi
      rfl
    simp only [Option.map_some, Invocation.observed_naming hvirtual,
      Invocation.sinkFindings_naming hvirtual]
    rfl

end Call

namespace Behaviour

variable (c : Call) (returns : Kind) (passing passing' : Passing)

/-- The way in which arguments are passed makes no difference to `Behaviour.reply`. -/
theorem reply_passing (binding : Binding) :
    (invoke returns binding passing).reply c = (invoke returns binding passing').reply c := by
  cases returns <;> rfl

/-- The reply is the same but for the class among the arguments. -/
theorem reply_naming (k : Value) :
    (invoke returns .nonvirtual passing').reply (c.naming k) =
      { (invoke returns .virtual passing).reply c with
        effect := { c.invoke .virtual with args := insertSecond k (c.invoke .virtual).args } } := by
  have heffect : (invoke returns .nonvirtual passing').effect (c.naming k) =
      { c.invoke .virtual with args := insertSecond k (c.invoke .virtual).args } :=
    c.invoke_naming k
  unfold reply
  rw [heffect]
  -- Whether there is a result depends on its kind alone.
  cases returns <;> rfl

end Behaviour

namespace Replay

/-- The class that is named is a number, so nothing is written back to it. -/
theorem writeBack_insertSecond (bindings : SortedMap String Value) (first : Argument)
    (rest : List Argument) (classHandle : UInt64) (k : Value) (values : List Value) :
    writeBack bindings (first :: .literal classHandle :: rest) (insertSecond k values) =
      writeBack bindings (first :: rest) values := by
  cases values <;> rfl

/-- The class that is named is a number, so it always has a value. -/
theorem mapM_argument_literal (r : Replay) (first : Argument) (rest : List Argument)
    (classHandle : UInt64) :
    (first :: .literal classHandle :: rest).mapM r.argument =
      ((first :: rest).mapM r.argument).map
        (insertSecond { handle := classHandle, bits := r.machine.pointerBits }) := by
  have hliteral : r.argument (.literal classHandle) =
      .ok { handle := classHandle, bits := r.machine.pointerBits } := rfl
  rw [List.mapM_cons, List.mapM_cons, List.mapM_cons, hliteral]
  cases r.argument first with
  | error name => rfl
  | ok v =>
    cases rest.mapM r.argument with
    | error name => rfl
    | ok values => rfl

/-! ### One call -/

variable {catalog : Catalog} {r r' : Replay} {call call' : RecordedCall} {f f' : Function}

/-- The outcome of `Replay.settle` depends on the reply and on the outcome before, and not on the
name of the function. -/
theorem outcome_settle {reply reply' : Reply} (hstate : r.outcome = r'.outcome)
    (hbindings : (r.settle call f reply).bindings = (r'.settle call' f' reply').bindings)
    (hmachine : reply.machine = reply'.machine)
    (hmodeled : reply.effect.modeled = reply'.effect.modeled)
    (hnatives : reply.effect.natives = reply'.effect.natives)
    (hfindings : reply.effect.findings = reply'.effect.findings) :
    (r.settle call f reply).outcome = (r'.settle call' f' reply').outcome := by
  simp only [outcome, Outcome.mk.injEq] at hstate
  obtain ⟨-, -, -, hindex, hplace, -, hreports, hcovered, hfallback, hfaults⟩ := hstate
  have hreports' : (r.settle call f reply).reports.map (fun x => (x.callIndex, x.finding)) =
      (r'.settle call' f' reply').reports.map fun x => (x.callIndex, x.finding) := by
    simp [settle, hreports, hindex, hfindings]
  -- The counters of single functions are not part of an outcome, the totals are.
  have hcoverage (handling : Handling) :
      let coverage := r.coverage.record f.name handling
      let coverage' := r'.coverage.record f'.name handling
      coverage.modeled = coverage'.modeled ∧ coverage.fallback = coverage'.fallback ∧
        coverage.faults = coverage'.faults := by
    cases handling <;> simp [Coverage.record, hcovered, hfallback, hfaults]
  simp only [outcome, Outcome.mk.injEq]
  refine ⟨hmachine, hbindings, hnatives, ?_, ?_, rfl, hreports', ?_⟩
  · simp [settle, hindex]
  · simp [settle, hplace]
  · simp only [settle, hmodeled]
    exact hcoverage _

/-- Neither does the outcome of `Replay.abort`. -/
theorem outcome_abort (hstate : r.outcome = r'.outcome) (fault : Fault) :
    (r.abort f fault).outcome = (r'.abort f' fault).outcome := by
  simp only [outcome, Outcome.mk.injEq] at hstate ⊢
  simp [abort, Coverage.record, hstate]

/-- The state after a call whose arguments have the given values. -/
def conclude (catalog : Catalog) (r : Replay) (call : RecordedCall) (f : Function)
    (args : List Value) : Replay :=
  match f.call (r.view catalog args) with
  | .error fault => r.abort f fault
  | .ok reply => r.settle call f reply

/-- A function that replies is settled. -/
theorem conclude_of_replies (h : f.behaviour ≠ .reserved) (args : List Value) :
    r.conclude catalog call f args = r.settle call f (r.reply catalog f args) := by
  simp [conclude, Function.call, h, reply]

/-- A step with an argument that is not bound fails, and names the function. -/
theorem step_of_unbound (hrun : r.aborted = none) (htarget : call.target.resolve? = some f)
    {name : String} (hargs : call.args.mapM r.argument = .error name) :
    r.step catalog call = .error (.unboundReference r.traceIndex f.name name) := by
  simp [step, hrun, htarget, hargs]

/-- Any other step in a run that has not ended comes to `Replay.conclude`. -/
theorem step_eq_conclude (hrun : r.aborted = none) (htarget : call.target.resolve? = some f)
    {args : List Value} (hargs : call.args.mapM r.argument = .ok args) :
    r.step catalog call = .ok (r.conclude catalog call f args) := by
  simp only [step, hrun, htarget, hargs, conclude, view, Option.isSome_none, Bool.false_eq_true,
    if_false]
  generalize f.call _ = reply
  cases reply <;> rfl

end Replay

namespace RecordedCall

open Replay

variable {call call' : RecordedCall} {f f' : Function}

/-- Calls are equivalent if their arguments have values in the same states, `adapt` turns those of
one into those of the other, and the states that they lead to have the same outcome. -/
theorem equivalent_of_conclude (htarget : call.target.resolve? = some f)
    (htarget' : call'.target.resolve? = some f') (adapt : Replay → List Value → List Value)
    (hargs : ∀ r : Replay, call'.args.mapM r.argument = (call.args.mapM r.argument).map (adapt r))
    (hconclude : ∀ (catalog : Catalog) (r : Replay) (args : List Value),
      (r.conclude catalog call f args).outcome =
        (r.conclude catalog call' f' (adapt r args)).outcome) : call.Equivalent call' := by
  intro catalog r
  by_cases hrun : r.aborted = none
  case neg =>
    have hend := Option.isSome_iff_ne_none.2 hrun
    rw [step, step, if_pos hend, if_pos hend]
  case pos =>
    have hargs' := hargs r
    cases hresolved : call.args.mapM r.argument with
    | error name =>
      rw [hresolved] at hargs'
      rw [step_of_unbound hrun htarget hresolved, step_of_unbound hrun htarget' hargs']
      rfl
    | ok args =>
      rw [hresolved] at hargs'
      rw [step_eq_conclude hrun htarget hresolved, step_eq_conclude hrun htarget' hargs']
      exact congrArg Except.ok (hconclude catalog r args)

/-- Functions that reply alike can take each other's place. -/
theorem equivalent_of_reply {target' : Target} (htarget : call.target.resolve? = some f)
    (htarget' : target'.resolve? = some f') (hreplies : f.behaviour ≠ .reserved)
    (hreplies' : f'.behaviour ≠ .reserved)
    (hreply : ∀ c, f.behaviour.reply c = f'.behaviour.reply c) :
    call.Equivalent { call with target := target' } := by
  refine equivalent_of_conclude htarget htarget' (fun _ args => args) (fun r => ?_) ?_
  · cases call.args.mapM r.argument <;> rfl
  · intro catalog r args
    rw [conclude_of_replies hreplies, conclude_of_replies hreplies']
    have hsame : r.reply catalog f args = r.reply catalog f' args := hreply _
    rw [hsame]
    exact outcome_settle rfl rfl rfl rfl rfl rfl

/-- A method may be called with a class besides the object. -/
theorem equivalent_nonvirtual {target target' : Target} {returns : Kind}
    {passing passing' : Passing} (htarget : target.resolve? = some f)
    (htarget' : target'.resolve? = some f')
    (hinvoke : f.behaviour = .invoke returns .virtual passing)
    (hinvoke' : f'.behaviour = .invoke returns .nonvirtual passing') (object : Argument)
    (classHandle : UInt64) (rest : List Argument) (bind : Option String) :
    Equivalent ⟨target, object :: rest, bind⟩
      ⟨target', object :: .literal classHandle :: rest, bind⟩ := by
  refine equivalent_of_conclude htarget htarget'
    (fun r => insertSecond { handle := classHandle, bits := r.machine.pointerBits })
    (fun r => mapM_argument_literal r object rest classHandle) fun catalog r args => ?_
  generalize Value.mk classHandle r.machine.pointerBits [] = k
  rw [conclude_of_replies (by simp [hinvoke]), conclude_of_replies (by simp [hinvoke'])]
  have hreply : r.reply catalog f args =
      (Behaviour.invoke returns .virtual passing).reply (r.view catalog args) := by
    rw [reply, hinvoke]
  have heffect : (r.reply catalog f args).effect = (r.view catalog args).invoke .virtual := by
    rw [hreply, Behaviour.reply_effect]
    rfl
  -- The reply to the call with a class, by that to the call without one.
  have hreply' : r.reply catalog f' (insertSecond k args) =
      { r.reply catalog f args with
        effect :=
          { (r.view catalog args).invoke .virtual with
            args := insertSecond k ((r.view catalog args).invoke .virtual).args } } := by
    rw [hreply, reply, hinvoke']
    exact Behaviour.reply_naming (r.view catalog args) returns passing passing' k
  rw [hreply']
  refine outcome_settle rfl ?_ rfl (by rw [heffect]) (by rw [heffect]) (by rw [heffect])
  -- What is left is to write the arguments back, where the class is skipped.
  change bindResult (writeBack _ _ _) _ _ = bindResult (writeBack _ _ _) _ _
  rw [heffect, writeBack_insertSecond]

/-- **Rewritten calls** lead to the same outcome. -/
theorem Rewrites.equivalent (h : call.Rewrites call') : call.Equivalent call' := by
  -- In the first two cases the behaviours reply alike; in the third one the function is the same.
  cases h with
  | passing hf h hname hf' h' hname' =>
    have hinvoke := Interface.behaviour_of_callName hf hname
    have hinvoke' := Interface.behaviour_of_callName hf' hname'
    refine equivalent_of_reply (Target.resolve?_eq_some_iff.2 ⟨hf, h⟩)
      (Target.resolve?_eq_some_iff.2 ⟨hf', h'⟩) (by simp [hinvoke]) (by simp [hinvoke']) fun c => ?_
    rw [hinvoke, hinvoke']
    exact Behaviour.reply_passing c _ _ _ _
  | construction hf h hname hf' h' hname' =>
    have hnew := Interface.behaviour_of_newObjectName hf hname
    have hnew' := Interface.behaviour_of_newObjectName hf' hname'
    refine equivalent_of_reply (Target.resolve?_eq_some_iff.2 ⟨hf, h⟩)
      (Target.resolve?_eq_some_iff.2 ⟨hf', h'⟩) (by simp [hnew]) (by simp [hnew']) fun c => ?_
    rw [hnew, hnew']
  | address hf h h' =>
    refine equivalent_of_conclude (Target.resolve?_eq_some_iff.2 ⟨hf, h⟩)
      (Target.resolve?_eq_some_iff.2 ⟨hf, h'⟩) (fun _ args => args) (fun r => ?_) fun _ _ _ => rfl
    cases call.args.mapM r.argument <;> rfl
  | nonvirtual hf h hname hf' h' hname' classHandle =>
    exact equivalent_nonvirtual (Target.resolve?_eq_some_iff.2 ⟨hf, h⟩)
      (Target.resolve?_eq_some_iff.2 ⟨hf', h'⟩) (Interface.behaviour_of_callName hf hname)
      (Interface.behaviour_of_callName hf' hname') _ classHandle _ _

/-- Calls that can be rewritten into each other lead to the same outcome. -/
theorem equivalent_of_eqvGen (h : Relation.EqvGen Rewrites call call') : call.Equivalent call' := by
  -- To be equivalent is an equivalence relation, so it is enough to look at single rewrites.
  induction h with
  | rel call call' hrewrites => exact hrewrites.equivalent
  | refl call => exact fun _ _ => rfl
  | symm call call' _ ih =>
    intro catalog r
    exact (ih catalog r).symm
  | trans call call' call'' _ _ ih ih' =>
    intro catalog r
    exact (ih catalog r).trans (ih' catalog r)

end RecordedCall

/-! ### Runs -/

namespace Replay

variable {r r' : Replay}

/-- What a call comes to depends on the outcome so far and on nothing else. -/
theorem outcome_step (hstate : r.outcome = r'.outcome) (catalog : Catalog) (call : RecordedCall) :
    outcomeOf (r.step catalog call) = outcomeOf (r'.step catalog call) := by
  have hmachine : r.machine = r'.machine := congrArg Outcome.machine hstate
  have hbindings : r.bindings = r'.bindings := congrArg Outcome.bindings hstate
  have hnatives : r.natives = r'.natives := congrArg Outcome.natives hstate
  have hindex : r.traceIndex = r'.traceIndex := congrArg Outcome.traceIndex hstate
  have haborted : r.aborted = r'.aborted := congrArg Outcome.aborted hstate
  have hargument : r.argument = r'.argument := by
    funext arg
    simp only [argument, hmachine, hbindings]
  have hview : r.view catalog = r'.view catalog := by
    funext args
    simp only [view, hmachine, hnatives]
  by_cases hrun : r.aborted = none
  case neg =>
    have hend := Option.isSome_iff_ne_none.2 hrun
    rw [step, step, if_pos hend, if_pos (haborted ▸ hend)]
    exact congrArg Except.ok hstate
  case pos =>
    have hrun' : r'.aborted = none := haborted ▸ hrun
    cases htarget : call.target.resolve? with
    | none => simp [step, hrun, hrun', htarget, hindex]
    | some f =>
      cases hargs : call.args.mapM r.argument with
      | error name =>
        rw [step_of_unbound hrun htarget hargs, step_of_unbound hrun' htarget (hargument ▸ hargs),
          hindex]
      | ok args =>
        -- The reply depends on the machine, the bindings and the registered methods, which agree.
        rw [step_eq_conclude hrun htarget hargs, step_eq_conclude hrun' htarget (hargument ▸ hargs)]
        refine congrArg Except.ok ?_
        simp only [conclude, hview]
        cases f.call (r'.view catalog args) with
        | error fault => exact outcome_abort hstate fault
        | ok reply =>
          refine outcome_settle hstate ?_ rfl rfl rfl rfl
          simp only [settle, hbindings]

/-- **Runs of equivalent calls** lead to the same outcome. -/
theorem outcome_run {calls calls' : List RecordedCall}
    (h : List.Forall₂ RecordedCall.Equivalent calls calls') (hstate : r.outcome = r'.outcome)
    (catalog : Catalog) : outcomeOf (r.run catalog calls) = outcomeOf (r'.run catalog calls') := by
  induction h generalizing r r' with
  | nil => exact congrArg Except.ok hstate
  | @cons call call' calls calls' hcall _ ih =>
    rw [run_cons, run_cons]
    -- First the other state with the same call, then the other call in that state.
    have hstep := (outcome_step hstate catalog call).trans (hcall catalog r')
    generalize r.step catalog call = first at hstep
    generalize r'.step catalog call' = first' at hstep
    cases first with
    | error e =>
      cases first' with
      | error e' => exact hstep
      | ok s' => cases hstep
    | ok s =>
      cases first' with
      | error e' => cases hstep
      | ok s' => exact ih (Except.ok.inj hstep)

end Replay

/-- **Calling conventions make no difference.** Calls of a trace may be rewritten: arguments may be
passed in another way, functions may be addressed by name, by symbol or by slot, and a method may be
called with any number for a class besides the object. The trace then fails with the same error, up
to the name of the function in it, or comes to the same outcome. -/
theorem Trace.outcome_rewritten {trace : Trace} {calls' : List RecordedCall}
    (h : List.Forall₂ (Relation.EqvGen RecordedCall.Rewrites) trace.calls calls')
    (catalog : Catalog) :
    outcomeOf (trace.replay catalog) =
      outcomeOf ({ trace with calls := calls' }.replay catalog) := by
  rw [replay_eq_run, replay_eq_run]
  dsimp only
  split
  · exact Replay.outcome_run (h.imp fun _ _ => RecordedCall.equivalent_of_eqvGen) rfl catalog
  · rfl

/-! ### A method that is called in two ways -/

/-- A run that calls a method. -/
def boxTrace : Trace where
  memory := [⟨4096, .text "Box"⟩, ⟨4128, .text "count"⟩, ⟨4160, .text "()I"⟩]
  inputs := [⟨"box", .object "Box" true ["PRIVATE"]⟩]
  calls := [
    ⟨.function "FindClass", [.address 4096], some "class"⟩,
    ⟨.function "GetMethodID", [.reference "class", .address 4128, .address 4160], some "method"⟩,
    ⟨.function "CallIntMethod", [.reference "box", .reference "method"], some "count"⟩]

/-- The same calls in another way: the first by its symbol, and the last by the slot of a function
that takes a class besides the object, and an array of arguments. -/
def boxCalls : List RecordedCall := [
  ⟨.symbol "_ZN7_JNIEnv9FindClassEPKc", [.address 4096], some "class"⟩,
  ⟨.function "GetMethodID", [.reference "class", .address 4128, .address 4160], some "method"⟩,
  ⟨.slot 81, [.reference "box", .literal 7, .reference "method"], some "count"⟩]

set_option maxRecDepth 20000 in
/-- Both ways lead to the same outcome, while the counters show which function was called. -/
theorem Trace.outcome_rewritten_boxTrace :
    ∃ r r', boxTrace.replay {} = .ok r ∧ { boxTrace with calls := boxCalls }.replay {} = .ok r' ∧
      r.outcome = r'.outcome ∧ (r.bindings.find? "count").isSome = true ∧
      r.coverage.perFunction.find? "CallIntMethod" = some 1 ∧
      r'.coverage.perFunction.find? "CallIntMethod" = none := by
  obtain ⟨r, r', hr, hr', hbound, hcount, hcount'⟩ :
      ∃ r r', boxTrace.replay {} = .ok r ∧ { boxTrace with calls := boxCalls }.replay {} = .ok r' ∧
        (r.bindings.find? "count").isSome = true ∧
        r.coverage.perFunction.find? "CallIntMethod" = some 1 ∧
        r'.coverage.perFunction.find? "CallIntMethod" = none := ⟨_, _, rfl, rfl, rfl, rfl, rfl⟩
  have hrewrites :
      List.Forall₂ (Relation.EqvGen RecordedCall.Rewrites) boxTrace.calls boxCalls := by
    obtain ⟨g, hg, hg'⟩ : ∃ g, (Target.function "FindClass").resolve? = some g ∧
        (Target.symbol "_ZN7_JNIEnv9FindClassEPKc").resolve? = some g := ⟨_, rfl, rfl⟩
    obtain ⟨f, hf, hname⟩ : ∃ f, (Target.function "CallIntMethod").resolve? = some f ∧
        f.name = Interface.callName (.primitive .int) .virtual .variadic :=
      ⟨_, rfl, by decide +kernel⟩
    obtain ⟨f', hf', hname'⟩ : ∃ f', (Target.slot 81).resolve? = some f' ∧
        f'.name = Interface.callName (.primitive .int) .nonvirtual .array :=
      ⟨_, rfl, by decide +kernel⟩
    rw [Target.resolve?_eq_some_iff] at hg hg' hf hf'
    refine .cons (.rel _ _ (.address hg.1 hg.2 hg'.2)) (.cons (.refl _) (.cons (.rel _ _ ?_) .nil))
    exact .nonvirtual hf.1 hf.2 hname hf'.1 hf'.2 hname' 7
  have hsame := outcome_rewritten hrewrites {}
  rw [hr, hr'] at hsame
  exact ⟨r, r', hr, hr', Except.ok.inj hsame, hbound, hcount, hcount'⟩

end NativeFlow
