import NativeFlow.Proofs.Findings
import NativeFlow.Proofs.History
import NativeFlow.Proofs.WriteBack

namespace NativeFlow

/-!
# Intents along a run

The state of an Intent is part of a value that has a name, and every call that names it takes it out
and puts it back. This module follows it.

* `Replay.update?`: what a call tells the Intent of a name.
* `Replay.Carries.keep`: the Intent of a name has been told just that when a call is done.
* `Replay.Carries.pass`: so has the result of the call, where it has one.
* `Replay.Follows`: an Intent is followed along a run, from name to name.
* `Replay.Starts.reports_edge`: an activity that is started through the Intent of a name is
  reported with the state of that Intent.
* `Replay.edge_of_told_intent`: what is reported when an Intent has been followed up to there.
-/

/-! ### What a call does to an Intent -/

/-- The result of a method that tells an Intent something has the state of that Intent. -/
theorem Invocation.returned_told {i : Invocation} {update : IntentUpdate} {icc : IccState Note}
    (hupdate : i.update? = some update) (hicc : i.args.head?.bind Value.icc? = some icc)
    {o : ObjectIdentity Note} (hreturned : i.returned? = some (.object o)) :
    ∃ o', i.observed.returned? = some (.object o') ∧ o'.icc = some (icc.tell update) := by
  rw [update?_eq] at hupdate
  split at hupdate
  case isFalse => cases hupdate
  case isTrue hreceiver =>
    obtain ⟨intent, hintent, hstate⟩ : ∃ intent, i.receiver?.bind Value.object? = some intent ∧
        intent.icc = some icc := by
      have hbind : (i.args.head?.bind Value.object?).bind (·.icc) = some icc := by
        rw [Option.bind_assoc]
        exact hicc
      rw [IntentMethod.receiver?_bind_object?, if_pos hreceiver]
      exact Option.bind_eq_some_iff.1 hbind
    unfold observed
    split at hupdate
    case h_1 hmethod =>
      -- The result gets a copy of the state.
      obtain ⟨activity, htext, rfl⟩ := Option.map_eq_some_iff.1 hupdate
      simp only [hmethod, IntentMethod.observe, IntentMethod.setClass, htext, hintent, hreturned,
        Observation.setReceiver, hstate, Option.getD_some]
      exact ⟨_, rfl, rfl⟩
    case h_2 hmethod =>
      -- The result is the Intent itself.
      obtain ⟨key, htext, rfl⟩ := Option.map_eq_some_iff.1 hupdate
      simp only [hmethod, IntentMethod.observe, IntentMethod.addExtra, htext, hintent, hreturned,
        Observation.setReceiver, hstate, Option.getD_some, Option.map_some]
      exact ⟨_, rfl, rfl⟩
    case h_3 => cases hupdate

/-- A method whose descriptor says that it returns an object returns one. -/
theorem Invocation.returned?_of_object {i : Invocation} {signature : MethodSignature}
    (hsignature : MethodSignature.ofText i.method.signature = .ok signature)
    (hkind : signature.returns.kind = .object) : ∃ o, i.returned? = some (.object o) := by
  simp only [returned?, hsignature, JavaType.note?, hkind, Option.map_some, Note.absorb]
  exact ⟨_, rfl⟩

namespace Replay

variable {catalog : Catalog} {r r' : Replay} {call : RecordedCall} {function : Function}
  {name : String} {icc : IccState Note}

/-- A call is made through the id of a method. -/
structure Invokes (catalog : Catalog) (r : Replay) (call : RecordedCall) (function : Function)
    (i : Invocation) : Prop where
  made : r.Makes call function i.args
  behaviour : ∃ passing, function.behaviour = .invoke function.behaviour.returns i.binding passing
  invocation : (r.view catalog i.args).invocation? i.binding = some i

/-- What a call tells the Intent of a name, if it is made on that Intent. -/
def update? (catalog : Catalog) (r : Replay) (name : String) (call : RecordedCall) :
    Option IntentUpdate :=
  headEvent? Behaviour.update? catalog name r call

namespace Invokes

variable {i : Invocation}

/-- All that a method call does: Intents are observed, and sinks are reported behind them. -/
theorem effect_eq (h : Invokes catalog r call function i) :
    (r.reply catalog function i.args).effect =
      { modeled := true
        args := i.observed.args
        natives := r.natives
        findings := i.observed.findings ++ i.sinkFindings
        notes := i.observed.returned?.toList } := by
  obtain ⟨passing, hbehaviour⟩ := h.behaviour
  rw [reply, Behaviour.reply_effect, hbehaviour]
  simp only [Behaviour.effect, Call.invoke, h.invocation]
  rfl

/-- The result has what is known after Intents have been observed. -/
theorem value?_eq (h : Invokes catalog r call function i)
    (hreturns : function.behaviour.returns ≠ .void) :
    ∃ value, (r.reply catalog function i.args).value? = some value ∧
      value.notes = i.observed.returned?.toList := by
  have hstorage : function.behaviour ≠ .storage := by
    obtain ⟨passing, hbehaviour⟩ := h.behaviour
    rw [hbehaviour]
    exact nofun
  obtain ⟨value, hvalue, hnotes⟩ :=
    Behaviour.reply_result hreturns hstorage (r.view catalog i.args)
  have heffect := h.effect_eq
  rw [reply, Behaviour.reply_effect] at heffect
  exact ⟨value, hvalue, by rw [hnotes, heffect]⟩

/-- What the function tells an Intent is what the method call tells it. -/
theorem update? (h : Invokes catalog r call function i) :
    function.behaviour.update? (r.view catalog i.args) = i.update? := by
  obtain ⟨passing, hbehaviour⟩ := h.behaviour
  rw [hbehaviour]
  simp only [Behaviour.update?, h.invocation, Option.bind_some]

end Invokes

/-! ### One step -/

/-- A name is bound to an Intent in the given state. -/
def Carries (r : Replay) (name : String) (icc : IccState Note) : Prop :=
  ∃ v, r.bindings.find? name = some v ∧ v.icc? = some icc

/-- **An Intent keeps its name.** A call that does not give the name to its result, and has the name
at one position at most, leaves the name with an Intent that has been told what the call told it. -/
theorem Carries.keep (h : r.Carries name icc) (hstep : r.step catalog call = .ok r')
    (hrun : r'.aborted = none) (hbind : call.bind ≠ some name)
    (honce : call.args.count (.reference name) ≤ 1) :
    r'.Carries name ((r.update? catalog name call).toList.foldl IccState.tell icc) := by
  obtain ⟨v, hv, hicc⟩ := h
  obtain ⟨function, args, hmade, rfl⟩ := makes_of_step hstep hrun
  have hbinds : ¬ call.Binds name := fun h => hbind h.1
  rw [update?, hmade.headEvent?_eq]
  by_cases hhead : call.args.head? = some (.reference name)
  · -- The Intent is what the call is made on, and stands at no other position.
    obtain ⟨v', rest, hargs, hargs', hbound⟩ := hmade.bound_head catalog hbinds hv hhead honce
    have htouched := reply_touches catalog r function args
    rw [hargs', hargs] at htouched
    rw [if_pos hhead]
    cases htouched with
    | cons _ htold => exact ⟨v', hbound, hargs ▸ htold.icc? hicc⟩
  · -- The Intent stands further behind, if at all, where a call changes nothing.
    rw [if_neg hhead]
    exact ⟨v, hmade.bound_other catalog hbinds hv hhead, hicc⟩

/-- **An Intent is handed on.** The result of a call that tells an Intent something is that Intent,
as it is then. -/
theorem Carries.pass (h : r.Carries name icc) {i : Invocation}
    (hinvokes : Invokes catalog r call function i)
    (hreturns : function.behaviour.returns ≠ .void) {signature : MethodSignature}
    (hsignature : MethodSignature.ofText i.method.signature = .ok signature)
    (hkind : signature.returns.kind = .object) {update : IntentUpdate}
    (hupdate : r.update? catalog name call = some update) {next : String}
    (hbind : call.bind = some next) (hstep : r.step catalog call = .ok r') :
    r'.Carries next (icc.tell update) := by
  obtain ⟨v, hv, hicc⟩ := h
  rw [update?, hinvokes.made.headEvent?_eq] at hupdate
  split at hupdate
  case isFalse => cases hupdate
  case isTrue hhead =>
    rw [hinvokes.update?] at hupdate
    -- The Intent is what the call is made on ...
    have hreceiver : i.args.head?.bind Value.icc? = some icc := by
      have hargument := hinvokes.made.argument
      obtain ⟨rest, hcall⟩ := List.head?_eq_some_iff.1 hhead
      rw [hcall] at hargument
      obtain ⟨x, xs, hx, -, hargs⟩ := List.forall₂_cons_left_iff.1 hargument
      rw [argument_reference, hv] at hx
      cases hx
      rw [hargs]
      exact hicc
    -- ... and the result is an object that has its state.
    obtain ⟨o, ho⟩ := Invocation.returned?_of_object hsignature hkind
    obtain ⟨o', ho', hstate⟩ := Invocation.returned_told hupdate hreceiver ho
    obtain ⟨value, hvalue, hnotes⟩ := hinvokes.value?_eq hreturns
    rw [hinvokes.made.step_eq] at hstep
    cases hstep
    refine ⟨value, find?_bindings_settle_result hbind hvalue, ?_⟩
    rw [ho'] at hnotes
    simp [Value.icc?, Value.object?, hnotes, hstate]

/-! ### Whole runs -/

/-- What the Intent of a name is told by some calls, one after another. -/
def updates (catalog : Catalog) (name : String) : Replay → List RecordedCall → List IntentUpdate :=
  history Behaviour.update? catalog name

/-- An Intent is followed along a run, from the name it has to the name it has in the end, and what
it is told is put down. -/
inductive Follows (catalog : Catalog) :
    Replay → String → List RecordedCall → List IntentUpdate → Replay → String → Prop
  /-- The run is over. -/
  | done (r : Replay) (name : String) : Follows catalog r name [] [] r name
  /-- The Intent keeps its name during a call. -/
  | keep {r r' r'' : Replay} {name name' : String} {call : RecordedCall}
      {calls : List RecordedCall} {told : List IntentUpdate}
      (hstep : r.step catalog call = .ok r') (hbind : call.bind ≠ some name)
      (honce : call.args.count (.reference name) ≤ 1)
      (hrest : Follows catalog r' name calls told r'' name') :
    Follows catalog r name (call :: calls) ((r.update? catalog name call).toList ++ told) r'' name'
  /-- A call that tells the Intent something returns it under a new name. -/
  | pass {r r' r'' : Replay} {name next name' : String} {call : RecordedCall}
      {calls : List RecordedCall} {told : List IntentUpdate} {update : IntentUpdate}
      {function : Function} {i : Invocation} {signature : MethodSignature}
      (hstep : r.step catalog call = .ok r') (hinvokes : Invokes catalog r call function i)
      (hreturns : function.behaviour.returns ≠ .void)
      (hsignature : MethodSignature.ofText i.method.signature = .ok signature)
      (hkind : signature.returns.kind = .object)
      (hupdate : r.update? catalog name call = some update) (hbind : call.bind = some next)
      (hrest : Follows catalog r' next calls told r'' name') :
    Follows catalog r name (call :: calls) (update :: told) r'' name'

namespace Follows

variable {name' : String} {calls : List RecordedCall} {told : List IntentUpdate}

/-- An Intent that is followed is followed along the calls of the run. -/
theorem run_eq (h : Follows catalog r name calls told r' name') :
    r.run catalog calls = .ok r' := by
  induction h with
  | done => rfl
  | keep hstep _ _ _ ih => exact run_cons_eq_ok_iff.2 ⟨_, hstep, ih⟩
  | pass hstep _ _ _ _ _ _ _ ih => exact run_cons_eq_ok_iff.2 ⟨_, hstep, ih⟩

/-- **What an Intent has been told is what it carries in the end.** -/
theorem carries (h : Follows catalog r name calls told r' name') (hrun : r'.aborted = none)
    (hcarries : r.Carries name icc) : r'.Carries name' (told.foldl IccState.tell icc) := by
  -- One step for each way to go on: under the same name, or under the name of a result.
  induction h generalizing icc with
  | done => exact hcarries
  | keep hstep hbind honce hrest ih =>
    -- The run goes on to its end, so it has not ended here.
    have hmid := (running_of_run hrest.run_eq hrun).1
    rw [List.foldl_append]
    exact ih hrun (hcarries.keep hstep hmid hbind honce)
  | pass hstep hinvokes hreturns hsignature hkind hupdate hbind hrest ih =>
    rw [List.foldl_cons]
    exact ih hrun (hcarries.pass hinvokes hreturns hsignature hkind hupdate hbind hstep)

end Follows

/-- An Intent whose name is not given to anything else can be followed under that name. -/
theorem follows_updates {calls : List RecordedCall} (h : r.run catalog calls = .ok r')
    (hquiet : ∀ call ∈ calls, call.bind ≠ some name ∧ call.args.count (.reference name) ≤ 1) :
    Follows catalog r name calls (updates catalog name r calls) r' name := by
  induction calls generalizing r with
  | nil =>
    obtain rfl : r = r' := by simpa using h
    exact .done r name
  | cons call calls ih =>
    obtain ⟨s, hs, hrest⟩ := run_cons_eq_ok_iff.1 h
    obtain ⟨hbind, honce⟩ := hquiet call List.mem_cons_self
    have hfollows := ih hrest fun call hmem => hquiet call (List.mem_cons_of_mem _ hmem)
    rw [updates, history_cons hs]
    exact .keep hs hbind honce hfollows

/-! ### Started activities -/

/-- A call starts an activity through the Intent of a name. -/
structure Starts (catalog : Catalog) (r : Replay) (call : RecordedCall) (i : Invocation)
    (name : String) : Prop where
  invokes : ∃ function, Invokes catalog r call function i
  method : (i.method.className, i.method.methodName) = (contextClass, "startActivity")
  argument : call.args[i.binding.firstArgument]? = some (.reference name)

/-- The edges that a call has reported. -/
def edges (r : Replay) (callIndex : Nat) : List Finding :=
  (r.findingsOf callIndex).filter fun finding => finding.rule = .iccEdge

/-- A call is made and reports one edge, which all reports from then on keep. -/
def ReportsEdge (catalog : Catalog) (r : Replay) (call : RecordedCall) (callIndex : Nat)
    (edge : Finding) : Prop :=
  ∃ s, r.step catalog call = .ok s ∧
    ∀ after final, s.run catalog after = .ok final → final.edges callIndex = [edge]

/-- One edge is reported, and sinks report none. -/
theorem Starts.findings {i : Invocation} (h : Starts catalog r call i name)
    (hcarries : r.Carries name icc) :
    (i.observed.findings ++ i.sinkFindings).filter (fun f => f.rule = .iccEdge) = [i.edge icc] := by
  obtain ⟨v, hv, hicc⟩ := hcarries
  obtain ⟨function, hinvokes⟩ := h.invokes
  have hargument : i.arguments.head? = some v := by
    obtain ⟨x, hx, hvalue⟩ := hinvokes.made.getElem? h.argument
    rw [argument_reference, hv] at hvalue
    cases hvalue
    rw [Invocation.arguments, List.head?_drop, hx]
  have hobserved : i.observed.findings = [i.edge icc] := by
    have hstart : IntentMethod.of? i.method = some .startActivity :=
      IntentMethod.of?_eq_some_iff.2 h.method.symm
    rw [Invocation.observed_findings, if_pos hstart, hargument]
    simp [hicc]
  have hsinks : i.sinkFindings.filter (fun f => f.rule = .iccEdge) = [] := by
    rw [List.filter_eq_nil_iff]
    intro f hf
    obtain ⟨_, _, _, _, _, -, -, -, -, rfl⟩ := Invocation.mem_sinkFindings_iff.1 hf
    simp [Finding.rule]
  rw [List.filter_append, hobserved, hsinks]
  rfl

/-- **Started activities.** The call that starts an activity through the Intent of a name reports
one edge, with the state of that Intent. -/
theorem Starts.reports_edge {trace : Trace} {calls : List RecordedCall}
    (hreached : (start trace).run catalog calls = .ok r) {i : Invocation}
    (h : Starts catalog r call i name) (hcarries : r.Carries name icc) :
    ReportsEdge catalog r call calls.length (i.edge icc) := by
  obtain ⟨function, hinvokes⟩ := h.invokes
  refine ⟨_, hinvokes.made.step_eq catalog, fun after final hfinal => ?_⟩
  rw [edges, findingsOf_settled hreached hinvokes.made.running hfinal, hinvokes.effect_eq]
  exact h.findings hcarries

/-- **An edge reports what its Intent has been told.** Let a name be bound to an Intent at some
point of a run, and let an activity be started through it later on.

If no call in between gives the name to its result or has it at two positions, the call that starts
the activity reports exactly one edge. Its state is that of the Intent at first, with all that the
calls in between have told it in their order; no other call makes a difference.

The same holds when a call that tells the Intent something returns it under a new name, and the
Intent is used under that name from then on. -/
theorem edge_of_told_intent {trace : Trace} {before between : List RecordedCall} {v : Value}
    {r₁ : Replay} (hbefore : (start trace).run catalog before = .ok r)
    (hbound : r.bindings.find? name = some v) (hicc : v.icc? = some icc)
    (hbetween : r.run catalog between = .ok r₁) (i : Invocation) :
    ((∀ c ∈ between, c.bind ≠ some name ∧ c.args.count (.reference name) ≤ 1) →
      Starts catalog r₁ call i name →
      ReportsEdge catalog r₁ call (before.length + between.length)
        (i.edge ((updates catalog name r between).foldl IccState.tell icc))) ∧
    ∀ name' told, Follows catalog r name between told r₁ name' → Starts catalog r₁ call i name' →
      ReportsEdge catalog r₁ call (before.length + between.length)
        (i.edge (told.foldl IccState.tell icc)) := by
  have hreached : (start trace).run catalog (before ++ between) = .ok r₁ :=
    run_append_eq_ok_iff.2 ⟨r, hbefore, hbetween⟩
  have hfollowed : ∀ name' told, Follows catalog r name between told r₁ name' →
      Starts catalog r₁ call i name' →
      ReportsEdge catalog r₁ call (before.length + between.length)
        (i.edge (told.foldl IccState.tell icc)) := by
    intro name' told hfollows hstarts
    obtain ⟨function, hinvokes⟩ := hstarts.invokes
    have hcarries := hfollows.carries hinvokes.made.running ⟨v, hbound, hicc⟩
    rw [← List.length_append]
    exact hstarts.reports_edge hreached hcarries
  refine ⟨fun hquiet hstarts => ?_, hfollowed⟩
  exact hfollowed name _ (follows_updates hbetween hquiet) hstarts

/-! ### An Intent that is told twice -/

/-- A run that is handed an Intent. -/
def intentTrace : Trace where
  memory := [⟨4096, .text "setClassName"⟩, ⟨4160, .text "putExtra"⟩, ⟨4224, .text "startActivity"⟩,
    ⟨4288, .text "(Ljava/lang/String;Ljava/lang/String;)Landroid/content/Intent;"⟩,
    ⟨4416, .text "(Landroid/content/Intent;)V"⟩]
  inputs := [⟨"Intent", .classObject intentClass⟩, ⟨"Context", .classObject contextClass⟩,
    ⟨"context", .object contextClass false []⟩, ⟨"intent", .object intentClass false []⟩,
    ⟨"activity", .string "app.Viewer"⟩, ⟨"key", .string "token"⟩,
    ⟨"token", .object "Token" true ["CREDENTIAL"]⟩]

/-- Three methods are looked up. -/
def lookUps : List RecordedCall := [
  ⟨.function "GetMethodID", [.reference "Intent", .address 4096, .address 4288], some "setClass"⟩,
  ⟨.function "GetMethodID", [.reference "Intent", .address 4160, .address 4288], some "put"⟩,
  ⟨.function "GetMethodID", [.reference "Context", .address 4224, .address 4416], some "start"⟩]

/-- The Intent is told about an activity, and what that returns is told about a token. -/
def tellings : List RecordedCall := [
  ⟨.function "CallObjectMethod",
    [.reference "intent", .reference "setClass", .literal 0, .reference "activity"], some "named"⟩,
  ⟨.function "CallObjectMethod",
    [.reference "named", .reference "put", .reference "key", .reference "token"], some "filled"⟩]

/-- The activity is started through one of the names. -/
def startCall (name : String) : RecordedCall where
  target := .function "CallVoidMethod"
  args := [.reference "context", .reference "start", .reference name]

/-- What is known about the token. -/
def tokenNote : Note :=
  .object { source := .argument, javaType := "Token", taint := Taint.of .argument ["CREDENTIAL"] }

/-- The edge from the method that starts activities. -/
def viewerEdge (extras : List (String × Option Note)) : Finding :=
  .iccEdge "Landroid/content/Context;.startActivity:(Landroid/content/Intent;)V" (some "app.Viewer")
    extras

/-- A call of a method with a receiver, under an empty catalog. -/
def plainInvocation (className methodName signature : String) (args : List Value) : Invocation :=
  ⟨⟨className, methodName, signature⟩, .virtual, args, {}⟩

set_option maxRecDepth 20000 in
/-- Under its first name the Intent has been told about the activity only, under its last name about
the token too. -/
theorem edge_of_viewer_intent :
    ∃ r r₁, (start intentTrace).run {} lookUps = .ok r ∧ r.run {} tellings = .ok r₁ ∧
      ReportsEdge {} r₁ (startCall "intent") 5 (viewerEdge []) ∧
      ReportsEdge {} r₁ (startCall "filled") 5 (viewerEdge [("token", some tokenNote)]) := by
  obtain ⟨r, v, r₁, i, i', hr, hv, hicc, hr₁, hstarts, hedge, hfollows, hstarts', hedge'⟩ :
      ∃ r v r₁ i i', (start intentTrace).run {} lookUps = .ok r ∧
        r.bindings.find? "intent" = some v ∧ v.icc? = some {} ∧ r.run {} tellings = .ok r₁ ∧
        Starts {} r₁ (startCall "intent") i "intent" ∧
        i.edge ((updates {} "intent" r tellings).foldl IccState.tell {}) = viewerEdge [] ∧
        Follows {} r "intent" tellings
          [.activity "app.Viewer", .extra "token" (some tokenNote)] r₁ "filled" ∧
        Starts {} r₁ (startCall "filled") i' "filled" ∧
        i'.edge ([IntentUpdate.activity "app.Viewer", .extra "token" (some tokenNote)].foldl
          IccState.tell {}) = viewerEdge [("token", some tokenNote)] := by
    refine ⟨_, _, _, plainInvocation contextClass "startActivity" "(Landroid/content/Intent;)V" _,
      plainInvocation contextClass "startActivity" "(Landroid/content/Intent;)V" _, rfl, rfl, rfl,
      rfl, ⟨⟨_, ⟨rfl, rfl, by decide, rfl⟩, ⟨_, rfl⟩, rfl⟩, rfl, rfl⟩, rfl, ?_,
      ⟨⟨_, ⟨rfl, rfl, by decide, rfl⟩, ⟨_, rfl⟩, rfl⟩, rfl, rfl⟩, rfl⟩
    refine .pass (i := plainInvocation intentClass "setClassName"
      "(Ljava/lang/String;Ljava/lang/String;)Landroid/content/Intent;" _) rfl
      ⟨⟨rfl, rfl, by decide, rfl⟩, ⟨_, rfl⟩, rfl⟩ (by decide) rfl rfl rfl rfl ?_
    exact .pass (i := plainInvocation intentClass "putExtra"
      "(Ljava/lang/String;Ljava/lang/String;)Landroid/content/Intent;" _) rfl
      ⟨⟨rfl, rfl, by decide, rfl⟩, ⟨_, rfl⟩, rfl⟩ (by decide) rfl rfl rfl rfl (.done _ _)
  have hquiet : ∀ c ∈ tellings,
      c.bind ≠ some "intent" ∧ c.args.count (.reference "intent") ≤ 1 := by
    decide
  have hdirect := (edge_of_told_intent hr hv hicc hr₁ i).1 hquiet hstarts
  have hhanded := (edge_of_told_intent hr hv hicc hr₁ i').2 "filled" _ hfollows hstarts'
  rw [hedge] at hdirect
  rw [hedge'] at hhanded
  exact ⟨r, r₁, hr, hr₁, hdirect, hhanded⟩

end Replay

end NativeFlow
