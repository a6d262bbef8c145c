import NativeFlow.Proofs.Fields
import NativeFlow.Proofs.Result
import NativeFlow.Proofs.Run

namespace NativeFlow

/-!
# The taint of a result

The taint of a result is settled by the catalog and by what the method is called on. After that
Intents are looked at, and that may change what is known about the result.

* `Invocation.taint?_of_returned?`: what is known at first has the taint of the result.
* `Invocation.handedBack?`: the Intent that is handed back by a method that puts an extra into it.
* `Invocation.observed_handedBack`, `Invocation.observed_taint?`: the taint after Intents have been
  looked at. An Intent that is handed back has its own, and nothing else takes any taint away.
* `Function.source_kept_iff`: when the result of a source has the taint of the source.
-/

/-- A record is tainted, with the given categories at least. -/
def Taint.Carries (t : Taint) (categories : SortedSet String) : Prop :=
  t.isTainted = true ∧ ∀ category ∈ categories, category ∈ t.categories

namespace Invocation

variable {i : Invocation} {n : Note}

/-! ### Before Intents are looked at -/

/-- Something is known about the result of a method with a readable descriptor, unless it is `void`.
-/
theorem isSome_returned? {signature : MethodSignature}
    (hsignature : MethodSignature.ofText i.method.signature = .ok signature)
    (hkind : signature.returns.kind ≠ .void) : i.returned?.isSome := by
  have hnote := JavaType.isSome_note? hkind i.provenance
  simp only [returned?, hsignature, Option.isSome_map, hnote]

/-- A note of which only the type is known is clean, so it gets the taint of the result as it is. -/
theorem taint?_of_returned? (h : i.returned? = some n) : n.taint? = some i.resultTaint := by
  obtain ⟨type, source, fresh, hfresh, rfl⟩ := new_of_returned? h
  rw [Note.taint?_absorb, JavaType.taint?_note? hfresh, Option.map_some, Taint.clean_absorb]

/-- The result of a source has the categories that the catalog lists. -/
theorem resultTaint_of_source {categories : SortedSet String}
    (h : i.classification? = some (.source categories)) :
    i.resultTaint = .tainted .api categories := by
  unfold resultTaint
  rw [h]

/-- Any other result inherits its taint. -/
theorem resultTaint_of_not_source
    (h : ∀ categories, i.classification? ≠ some (.source categories)) :
    i.resultTaint = i.inheritedTaint := by
  unfold resultTaint
  split
  case h_1 categories hsource => exact absurd hsource (h categories)
  case h_2 => rfl

/-! ### After Intents have been looked at -/

/-- Whether anything is known about the result does not depend on Intents. -/
theorem isSome_observed (i : Invocation) : i.observed.returned?.isSome = i.returned?.isSome := by
  unfold observed
  cases IntentMethod.of? i.method with
  | none => rfl
  | some method =>
    -- Each method replaces what is known or adds to it, and none takes it away.
    cases method with
    | setClassName =>
      simp only [IntentMethod.observe, IntentMethod.setClass, Observation.setReceiver]
      split
      · split <;> simp [*]
      · rfl
    | putExtra =>
      simp only [IntentMethod.observe, IntentMethod.addExtra]
      split <;> simp
    | getStringExtra =>
      simp only [IntentMethod.observe, IntentMethod.readExtra]
      split <;> simp [*]
    | startActivity =>
      simp only [IntentMethod.observe, IntentMethod.start]
      split <;> rfl

/-- The Intent that a call hands back: the one that an extra is put into, if the key of the extra is
known. -/
def handedBack? (i : Invocation) : Option (ObjectIdentity Note) :=
  if (i.method.className, i.method.methodName) = (intentClass, "putExtra") ∧ (i.text? 0).isSome then
    i.receiver?.bind Value.object?
  else none

/-- An Intent that is handed back has the taint that it has, whatever the taint of the result is. -/
theorem observed_handedBack {intent : ObjectIdentity Note} (hback : i.handedBack? = some intent)
    (h : i.returned? = some n) :
    ∃ m, i.observed.returned? = some m ∧ m.taint? = some intent.taint := by
  unfold handedBack? at hback
  split at hback
  case isFalse => cases hback
  case isTrue hput =>
    have hmethod : IntentMethod.of? i.method = some .putExtra :=
      IntentMethod.of?_eq_some_iff.2 hput.1.symm
    obtain ⟨key, hkey⟩ := Option.isSome_iff_exists.1 hput.2
    simp only [observed, hmethod, IntentMethod.observe, IntentMethod.addExtra, hkey, hback, h,
      Option.map_some]
    exact ⟨_, rfl, rfl⟩

/-- Any other result keeps its taint. What is taken out of an Intent gets more. -/
theorem observed_taint? (hback : i.handedBack? = none) (h : i.returned? = some n) :
    ∃ m, i.observed.returned? = some m ∧
      (m.taint? = some i.resultTaint ∨
        IntentMethod.of? i.method = some .getStringExtra ∧
          m.taint? = some (i.resultTaint.absorb (Taint.of .api [sensitiveInfo]))) := by
  have htaint := taint?_of_returned? h
  unfold observed
  cases hmethod : IntentMethod.of? i.method with
  | none => exact ⟨n, h, .inl htaint⟩
  | some method =>
    cases method with
    | setClassName =>
      simp only [IntentMethod.observe, IntentMethod.setClass]
      split
      case h_1 =>
        -- The result gets the state of the Intent, if it is an object.
        split
        case h_1 result hresult =>
          obtain rfl : n = .object result := Option.some.inj (h.symm.trans hresult)
          exact ⟨_, rfl, .inl htaint⟩
        case h_2 => exact ⟨n, h, .inl htaint⟩
      case h_2 => exact ⟨n, h, .inl htaint⟩
    | putExtra =>
      simp only [IntentMethod.observe, IntentMethod.addExtra]
      split
      case h_1 key intent hkey hintent =>
        -- This is the case that is left out.
        have hput : (i.method.className, i.method.methodName) = (intentClass, "putExtra") :=
          (IntentMethod.of?_eq_some_iff.1 hmethod).symm
        rw [handedBack?, if_pos ⟨hput, Option.isSome_of_eq_some hkey⟩, hintent] at hback
        cases hback
      case h_2 => exact ⟨n, h, .inl htaint⟩
    | getStringExtra =>
      simp only [IntentMethod.observe, IntentMethod.readExtra]
      split
      case h_1 result hresult =>
        obtain rfl : n = .object result := Option.some.inj (h.symm.trans hresult)
        obtain hown : result.taint = i.resultTaint := Option.some.inj htaint
        exact ⟨_, rfl, .inr ⟨trivial, by rw [← hown]; rfl⟩⟩
      case h_2 => exact ⟨n, h, .inl htaint⟩
    | startActivity =>
      simp only [IntentMethod.observe, IntentMethod.start]
      split <;> exact ⟨n, h, .inl htaint⟩

end Invocation

/-! ### Calls -/

/-- The taint of a value with a single note is that of the note. -/
theorem Value.taint?_of_notes {w : Value} {n : Note} {t : Taint} (hnotes : w.notes = [n])
    (ht : n.taint? = some t) : w.taint? = some t := by
  cases n with
  | object o =>
    cases ht
    simp [taint?, object?, hnotes]
  | primitive p =>
    cases ht
    simp [taint?, object?, primitive?, hnotes]
  | _ => cases ht

/-- A method call that returns anything returns a new value, with what is known about the result. -/
theorem Function.call_of_invocation {f : Function} {c : Call} {returns : Kind} {binding : Binding}
    {passing : Passing} {i : Invocation} (hf : f.behaviour = .invoke returns binding passing)
    (hi : c.invocation? binding = some i) :
    ∃ reply, f.call c = .ok reply ∧ (returns ≠ .void → reply.value?.isSome) ∧
      ∀ w, reply.value? = some w → w.notes = i.observed.returned?.toList := by
  have hreserved : f.behaviour ≠ .reserved := by
    rw [hf]
    exact nofun
  refine ⟨f.behaviour.reply c, if_neg hreserved, fun hreturns => ?_, fun w hw => ?_⟩
  · have hkind : f.behaviour.returns ≠ .void := by
      rw [hf]
      exact hreturns
    exact Option.isSome_iff_exists.2 (Behaviour.exists_value? hkind c)
  · rw [hf] at hw
    rcases Behaviour.reply_cases hw with ⟨hstorage, -⟩ | hnotes
    · cases hstorage
    · rw [hnotes, Behaviour.effect, Call.invoke, hi]

/-- **The result of a source.** Let a method be called that the catalog lists as a source of some
categories, and let the method have a readable descriptor and return something. Then the call
returns a value whose taint is known, whatever the method is called on and with. It is tainted with
all the categories of the source, unless the call hands back an Intent: an extra was put into it
under a known key. Then the result has the taint of that Intent and nothing else, so it is tainted
with the categories of the source only if the Intent is. -/
theorem Function.source_kept_iff {f : Function} {c : Call} {returns : Kind} {binding : Binding}
    {passing : Passing} {i : Invocation} {signature : MethodSignature}
    {categories : SortedSet String} (hf : f.behaviour = .invoke returns binding passing)
    (hreturns : returns ≠ .void) (hi : c.invocation? binding = some i)
    (hsignature : MethodSignature.ofText i.method.signature = .ok signature)
    (hkind : signature.returns.kind ≠ .void)
    (hsource : c.catalog.classify i.method.fullSignature = some (.source categories)) :
    ∃ reply w t, f.call c = .ok reply ∧ reply.value? = some w ∧ w.taint? = some t ∧
      (t.Carries categories ↔
        ∀ intent, i.handedBack? = some intent → intent.taint.Carries categories) ∧
      ∀ intent, i.handedBack? = some intent → t = intent.taint := by
  obtain ⟨reply, hcall, hvalue, hresults⟩ := call_of_invocation hf hi
  obtain ⟨w, hw⟩ := Option.isSome_iff_exists.1 (hvalue hreturns)
  have hnotes := hresults w hw
  obtain ⟨n, hn⟩ := Option.isSome_iff_exists.1 (Invocation.isSome_returned? hsignature hkind)
  have hresult : i.resultTaint = .tainted .api categories := by
    obtain ⟨m, -, rfl⟩ := Option.map_eq_some_iff.1 hi
    exact Invocation.resultTaint_of_source hsource
  -- Either an Intent takes the place of the result, or the result stays.
  cases hback : i.handedBack? with
  | some intent =>
    obtain ⟨m, hm, ht⟩ := Invocation.observed_handedBack hback hn
    rw [hm] at hnotes
    refine ⟨reply, w, intent.taint, hcall, hw, Value.taint?_of_notes hnotes ht, ?_, ?_⟩
    · simp
    · rintro _ ⟨⟩
      rfl
  | none =>
    obtain ⟨m, hm, htaint⟩ := Invocation.observed_taint? hback hn
    rw [hm] at hnotes
    -- The taint of the source is there, alone or together with that of an extra.
    obtain ⟨t, ht, hcarries⟩ : ∃ t, m.taint? = some t ∧ t.Carries categories := by
      rcases htaint with ht | ⟨-, ht⟩
      · refine ⟨_, ht, ?_⟩
        rw [hresult]
        exact ⟨rfl, fun _ hmem => hmem⟩
      · refine ⟨_, ht, ?_⟩
        rw [hresult]
        refine ⟨?_, fun category hmem => (Taint.mem_categories_absorb _ _).2 (.inl hmem)⟩
        rw [Taint.isTainted_absorb]
        rfl
    refine ⟨reply, w, t, hcall, hw, Value.taint?_of_notes hnotes ht, ?_, ?_⟩
    · exact ⟨fun _ _ => nofun, fun _ => hcarries⟩
    · exact nofun

/-! ### A source and an Intent that is handed back -/

namespace Replay

/-- A run that knows a method of Intents, an Intent and a key. -/
def keyTrace (m : MethodIdentity) : Trace where
  memory := [⟨4096, .text m.methodName⟩, ⟨4160, .text m.signature⟩]
  inputs := [⟨"Intent", .classObject intentClass⟩, ⟨"intent", .object intentClass false []⟩,
    ⟨"key", .string "pin"⟩]
  calls := [
    ⟨.function "GetMethodID", [.reference "Intent", .address 4096, .address 4160], some "method"⟩]

/-- The method is called on the Intent. -/
def callWithKey : RecordedCall where
  target := .function "CallObjectMethod"
  args := [.reference "intent", .reference "method", .reference "key", .literal 7]
  bind := some "result"

/-- The method that takes a text out of an Intent. -/
def readText : MethodIdentity :=
  ⟨intentClass, "getStringExtra", "(Ljava/lang/String;)Ljava/lang/String;"⟩

/-- The method that puts a number into an Intent. -/
def putNumber : MethodIdentity :=
  ⟨intentClass, "putExtra", "(Ljava/lang/String;I)Landroid/content/Intent;"⟩

/-- The catalog that lists a method as a source. -/
def sourceCatalog (m : MethodIdentity) : Catalog :=
  ({} : Catalog).add ⟨m.fullSignature, .source (.ofList ["PIN"])⟩

set_option maxRecDepth 20000 in
/-- A text that is taken out of an untainted Intent has the category that the catalog gives it. -/
theorem source_kept_of_readText :
    ∃ r function args reply w t, (keyTrace readText).replay (sourceCatalog readText) = .ok r ∧
      r.Makes callWithKey function args ∧
      function.call (r.view (sourceCatalog readText) args) = .ok reply ∧ reply.value? = some w ∧
      w.taint? = some t ∧ t.Carries (.ofList ["PIN"]) := by
  obtain ⟨r, function, args, i, signature, hr, hmade, hf, hi, hsignature, hkind, hsource, hback⟩ :
      ∃ r function args i signature,
        (keyTrace readText).replay (sourceCatalog readText) = .ok r ∧
        r.Makes callWithKey function args ∧
        function.behaviour = .invoke .object .virtual .variadic ∧
        (r.view (sourceCatalog readText) args).invocation? .virtual = some i ∧
        MethodSignature.ofText i.method.signature = .ok signature ∧
        signature.returns.kind ≠ .void ∧
        (sourceCatalog readText).classify i.method.fullSignature =
          some (.source (.ofList ["PIN"])) ∧ i.handedBack? = none :=
    ⟨_, _, _, _, _, rfl, ⟨rfl, rfl, by decide, rfl⟩, rfl, rfl, rfl, by decide, rfl, rfl⟩
  obtain ⟨reply, w, t, hcall, hw, ht, hkept, -⟩ :=
    Function.source_kept_iff hf (by decide) hi hsignature hkind hsource
  refine ⟨r, function, args, reply, w, t, hr, hmade, hcall, hw, ht, hkept.2 ?_⟩
  rw [hback]
  exact nofun

set_option maxRecDepth 20000 in
/-- An untainted Intent that a number is put into is handed back untainted, although the catalog
lists the method as a source. -/
theorem source_lost_of_putNumber :
    ∃ r r' function args i signature w,
      (keyTrace putNumber).replay (sourceCatalog putNumber) = .ok r ∧
      r.Makes callWithKey function args ∧
      function.behaviour = .invoke .object .virtual .variadic ∧
      (r.view (sourceCatalog putNumber) args).invocation? .virtual = some i ∧
      MethodSignature.ofText i.method.signature = .ok signature ∧
      signature.returns.kind ≠ .void ∧
      (sourceCatalog putNumber).classify i.method.fullSignature =
        some (.source (.ofList ["PIN"])) ∧
      r.step (sourceCatalog putNumber) callWithKey = .ok r' ∧
      r'.bindings.find? "result" = some w ∧ w.taint? = some .clean :=
  ⟨_, _, _, _, _, _, _, rfl, ⟨rfl, rfl, by decide, rfl⟩, rfl, rfl, rfl, by decide, rfl, rfl, rfl,
    rfl⟩

end Replay

end NativeFlow
