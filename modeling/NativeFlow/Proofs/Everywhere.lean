import NativeFlow.Proofs.Fields
import NativeFlow.Proofs.Result

namespace NativeFlow

/-!
# Properties of all that is known about a value

A property of notes may hold everywhere in a value: of all its notes and of all notes inside them.
Whether a call keeps such a property is a matter of the few notes that it makes.

* `Value.Everywhere`: a property of all notes of a value, at any depth.
* `Note.IgnoresState`: a property that says nothing about inter-component state. An Intent that is
  told something keeps it (`Value.Everywhere.tell`).
* `Invocation.Returns.everywhere`: it holds of what a method returns, if it holds of new notes.
* `Behaviour.forall_effect_args`, `Behaviour.everywhere_reply`: what holds of the arguments that a
  call leaves and of its result.
-/

/-- The property `P` holds of everything that is known about `v`, at any depth. -/
def Value.Everywhere (P : Note → Prop) (v : Value) : Prop := ∀ n ∈ v.notes, n.Everywhere P

/-- A property that an object keeps when its inter-component state is replaced. -/
def Note.IgnoresState (P : Note → Prop) : Prop :=
  ∀ (o : ObjectIdentity Note) (icc : IccState Note), P (.object o) →
    P (.object { o with icc := some icc })

section

variable {P : Note → Prop} {v : Value}

namespace Value

/-- Nothing is known about a value that has just been given a handle. -/
theorem everywhere_plain (handle : UInt64) (bits : Nat) : Everywhere P { handle, bits } :=
  fun _ hn => absurd hn List.not_mem_nil

/-- It holds everywhere in the object that `v` refers to. -/
theorem Everywhere.object? (h : v.Everywhere P) {o : ObjectIdentity Note}
    (ho : v.object? = some o) : (Note.object o).Everywhere P :=
  h _ (mem_of_object? ho)

/-- **Intents.** A property that holds everywhere in an Intent and in what it is told holds
everywhere in the Intent afterwards. -/
theorem Everywhere.tell (hstate : Note.IgnoresState P) (h : v.Everywhere P) {update : IntentUpdate}
    (hupdate : ∀ key n, update = .extra key (some n) → n.Everywhere P) :
    (v.tell update).Everywhere P := by
  intro n hn
  rcases mem_tell hn with ⟨o, ho, rfl⟩ | hold
  · have hobject := h.object? ho
    exact Note.everywhere_setState hobject (hstate o _ hobject.here)
      (ObjectIdentity.everywhere_tell hobject hupdate)
  · exact h n hold

end Value

/-! ### Method calls -/

/-- An invocation has the arguments of its call. -/
theorem Call.args_of_invocation? {c : Call} {binding : Binding} {i : Invocation}
    (h : c.invocation? binding = some i) : i.args = c.args := by
  obtain ⟨m, -, rfl⟩ := Option.map_eq_some_iff.1 h
  rfl

namespace Invocation

variable {i : Invocation} (hargs : ∀ v ∈ i.args, v.Everywhere P)

include hargs

/-- It holds everywhere in the object that the first argument refers to. -/
theorem everywhere_head {o : ObjectIdentity Note} (ho : i.args.head?.bind Value.object? = some o) :
    (Note.object o).Everywhere P := by
  obtain ⟨v, hv, hobject⟩ := Option.bind_eq_some_iff.1 ho
  exact (hargs v (List.mem_of_mem_head? hv)).object? hobject

/-- **Results of methods.** What holds everywhere in the arguments and in new notes holds everywhere
in the result. An extra that is taken out of an Intent is an object of its own. -/
theorem Returns.everywhere (hstate : Note.IgnoresState P) (hnew : ∀ n, i.New n → n.Everywhere P)
    (hextra : ∀ (o : ObjectIdentity Note) (icc : IccState Note), i.New (.object o) →
      IntentMethod.of? i.method = some .getStringExtra →
      P (.object { o with
        taint := o.taint.absorb (Taint.of .api [sensitiveInfo])
        icc := some icc }))
    {n : Note} (h : i.Returns n) : n.Everywhere P := by
  cases h with
  | fresh h => exact hnew _ h
  | told hupdate ho =>
    have hintent := everywhere_head hargs ho
    exact Note.everywhere_setState hintent (hstate _ _ hintent.here)
      (ObjectIdentity.everywhere_tell hintent (everywhere_update? hargs hupdate))
  | sharing h hupdate ho =>
    have hobject := hnew _ h
    exact Note.everywhere_setState hobject (hstate _ _ hobject.here)
      (ObjectIdentity.everywhere_tell (everywhere_head hargs ho) (everywhere_update? hargs hupdate))
  | @extra o key? h hmethod =>
    -- The extras of the result have a key and no value, so there is nothing below them.
    refine Note.everywhere_object_iff.2 ⟨hextra o _ h hmethod, ?_, ?_⟩
    · exact (Note.everywhere_object_iff.1 (hnew _ h)).2.1
    · rintro _ ⟨⟩ extra hmem m hm
      obtain ⟨key, -, rfl⟩ := List.mem_map.1 hmem
      cases hm

end Invocation

/-! ### All calls -/

namespace Behaviour

variable {behaviour : Behaviour} {c : Call}

/-- **Arguments.** What holds of the arguments of a call holds of what the call leaves of them, if
it holds of the first one after the change that the call makes to it. -/
theorem forall_effect_args {Q : Value → Prop} (hargs : ∀ v ∈ c.args, Q v)
    (hchange : ∀ v ∈ c.args, ∀ v', c.Changes behaviour v v' → Q v') :
    ∀ v ∈ (behaviour.effect c).args, Q v := by
  have hchanged := behaviour.effect_changes c
  -- `cases` needs the two lists to be variables.
  generalize c.args = args at hchanged hargs hchange
  generalize (behaviour.effect c).args = args' at hchanged
  cases hchanged with
  | nil => exact hargs
  | same => exact hargs
  | @cons v v' rest h =>
    rw [List.forall_mem_cons] at hargs ⊢
    exact ⟨hchange v List.mem_cons_self v' h, hargs.2⟩

/-- **Results.** What holds everywhere in the arguments of a call and in what the call can say about
its result holds everywhere in the result. -/
theorem everywhere_reply (hargs : ∀ v ∈ c.args, v.Everywhere P)
    (hgives : ∀ n, c.Gives behaviour n → n.Everywhere P) {w : Value}
    (h : (behaviour.reply c).value? = some w) : w.Everywhere P := by
  rcases reply_cases h with ⟨-, hhead⟩ | hnotes
  · exact hargs w (List.mem_of_mem_head? hhead)
  · intro n hn
    rw [hnotes] at hn
    exact hgives n (behaviour.effect_gives hn)

end Behaviour

end

end NativeFlow
