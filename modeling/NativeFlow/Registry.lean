import NativeFlow.SortedMap

namespace NativeFlow

/-!
# Registered native methods

* `Registry`: the functions that native methods are bound to, by name and descriptor.
* `Registry.register`: binds a method. `Registry.rebound?` tells which function it had before, if
  that changes.
* `Registry.unregister`: drops the methods of a class. `Registry.dropClass` unregisters the class
  and tells how many methods it had.
-/

/-- A native method by name and descriptor. -/
structure NativeKey where
  name : String
  signature : String
  deriving DecidableEq, Repr

namespace NativeKey

/-- Keys are ordered by name, then by descriptor. -/
def order : NativeKey → NativeKey → Ordering :=
  compareLex (compareOn NativeKey.name) (compareOn NativeKey.signature)

instance : Ord NativeKey := ⟨order⟩

instance : Std.TransOrd NativeKey :=
  inferInstanceAs
    (Std.TransCmp (compareLex (compareOn NativeKey.name) (compareOn NativeKey.signature)))

instance : Std.LawfulEqOrd NativeKey where
  compare_self := by
    intro key
    exact Std.ReflCmp.compare_self
  eq_of_compare := by
    intro a b h
    obtain ⟨name, signature⟩ := a
    obtain ⟨name', signature'⟩ := b
    change (compareLex _ _ _ _) = _ at h
    simp only [compareLex, compareOn, Ordering.then_eq_eq, Std.compare_eq_iff_eq] at h
    rw [h.1, h.2]

end NativeKey

/-- The function of a native method and the class it was registered for. -/
structure NativeBinding where
  className : Option String
  pointer : UInt64
  deriving DecidableEq, Repr

/-- The native methods that are registered. -/
structure Registry where
  bindings : SortedMap NativeKey NativeBinding := .empty

namespace Registry

/-- The binding of a method. -/
def find? (registry : Registry) (key : NativeKey) : Option NativeBinding :=
  registry.bindings.find? key

/-- Binds a method, whatever it was bound to. -/
def register (registry : Registry) (key : NativeKey) (binding : NativeBinding) : Registry :=
  ⟨registry.bindings.insert key binding⟩

/-- The function that a method is bound to, if a registration would change it. -/
def rebound? (registry : Registry) (key : NativeKey) (pointer : UInt64) : Option UInt64 :=
  ((registry.find? key).map (·.pointer)).filter (· ≠ pointer)

/-- Drops every method that is registered for a class. -/
def unregister (registry : Registry) (className : String) : Registry :=
  ⟨registry.bindings.filter fun _ binding => binding.className ≠ some className⟩

/-- The number of registered methods. -/
def size (registry : Registry) : Nat := registry.bindings.size

/-- Drops every method that is registered for a class, and tells how many there were. -/
def dropClass (registry : Registry) (className : String) : Registry × Nat :=
  (registry.unregister className, registry.size - (registry.unregister className).size)

/-- `Registry.register` binds the method `key` and no other. -/
@[simp] theorem find?_register (registry : Registry) (key key' : NativeKey)
    (binding : NativeBinding) :
    (registry.register key binding).find? key' =
      if key' = key then some binding else registry.find? key' :=
  registry.bindings.find?_insert key key' binding

end Registry

end NativeFlow
