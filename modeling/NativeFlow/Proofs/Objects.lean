import NativeFlow.Proofs.Addressing
import NativeFlow.Proofs.Effect

namespace NativeFlow

/-!
# Calls that make something new

Most functions return a new value, and what is known about it is what their effect says.

* `Function.call_result`: the new value that a function returns. `Function.call_storage` is about
  the functions that return one of their arguments.
* `Call.newObject_notes`: what is known about an object that was made by a constructor.
-/

/-- **New values.** A function that returns anything but the storage of its argument has a reply to
every call, and returns a new value with what is known about the result. -/
theorem Function.call_result {f : Function} {behaviour : Behaviour} (hf : f.behaviour = behaviour)
    (hreturns : behaviour.returns ≠ .void) (hstorage : behaviour ≠ .storage) (c : Call) :
    ∃ reply w, f.call c = .ok reply ∧ reply.effect = behaviour.effect c ∧
      reply.value? = some w ∧ w.notes = (behaviour.effect c).notes := by
  subst hf
  have hreserved : f.behaviour ≠ .reserved := by
    intro h
    rw [h] at hreturns
    exact hreturns rfl
  obtain ⟨w, hw, hnotes⟩ := Behaviour.reply_result hreturns hstorage c
  exact ⟨_, w, if_neg hreserved, Behaviour.reply_effect _ c, hw, hnotes⟩

/-- A function that returns the storage of its first argument returns the argument. -/
theorem Function.call_storage {f : Function} (hstorage : f.behaviour = .storage) {c : Call}
    {v : Value} (hv : c.arg? 0 = some v) :
    ∃ reply, f.call c = .ok reply ∧ reply.value? = some v := by
  have hpassed : Behaviour.storage.passedOn? c.args = some v := by
    rw [Behaviour.passedOn?, if_pos rfl, List.head?_eq_getElem?]
    exact hv
  refine ⟨Behaviour.storage.reply c, ?_, ?_⟩
  · rw [Function.call, hstorage]
    rfl
  · unfold Behaviour.reply
    rw [hpassed]

/-- An object that a constructor made has the class that was asked for, and the taint of all
arguments of the constructor. -/
theorem Call.newObject_notes {c : Call} {className : String} (h : c.classArg? 0 = some className) :
    c.newObject.notes = [.object { ObjectIdentity.ofType .native className with
      taint := joinTaint (c.args.drop 2) }] := by
  simp [newObject, h, returning?, returning, Note.ofObject, Note.absorb, ObjectIdentity.ofType]

end NativeFlow
