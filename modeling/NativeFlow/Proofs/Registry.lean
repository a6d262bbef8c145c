import Mathlib.Data.List.Dedup
import NativeFlow.Proofs.Rebinding

namespace NativeFlow

/-!
# Registering methods and dropping them again

Methods that are registered for a class take the place of methods of the same name and descriptor,
whatever class these belong to. Dropping the class then drops all of them, and what the class had
before. What they took the place of does not come back.

* `SortedMap.find?_filter`, `SortedMap.nodup_keys`: filtered maps, and the keys of a map.
* `Registry.registerAll`, `Registry.find?_registerAll`: the methods of several records. The last
  record of a method counts.
* `Registry.without`, `Registry.ofClass`: a registry without a class and its methods, and the rest.
* `Registry.unregister_registerAll`: what is left when records have been registered for a class and
  the class is dropped.
* `Registry.keys_registerAll_perm`: the methods that the class has in between.
* `Registry.dropClass_registerAll`: both together, with the number of methods that are dropped.
-/

/-! ### Maps as lists -/

namespace SortedMap

variable {κ α : Type} [Ord κ]

/-- A filtered map finds what was found before, if the filter keeps it. -/
theorem find?_filter [Std.TransOrd κ] [Std.LawfulEqOrd κ] (m : SortedMap κ α)
    (keep : κ → α → Bool) (key : κ) :
    (m.filter keep).find? key = (m.find? key).filter (keep key) :=
  Assoc.find?_filter m.sorted keep key

/-- The keys of a map are those under which something is found. -/
theorem mem_keys_iff [Std.LawfulEqOrd κ] {m : SortedMap κ α} {key : κ} :
    key ∈ m.keys ↔ (m.find? key).isSome = true :=
  Assoc.isSome_find?_iff.symm

/-- The keys of a map are distinct. -/
theorem nodup_keys [Std.LawfulEqOrd κ] (m : SortedMap κ α) : m.keys.Nodup := by
  refine List.pairwise_map.2 (m.sorted.imp fun hlt heq => ?_)
  rw [heq, Std.compare_eq_iff_eq.2 rfl] at hlt
  cases hlt

/-- A map has as many keys as entries. -/
theorem length_keys (m : SortedMap κ α) : m.keys.length = m.size := List.length_map _

/-- What a filter keeps and what it drops is all there is. -/
theorem size_eq_add_size_filter_not (m : SortedMap κ α) (keep : κ → α → Bool) :
    m.size = (m.filter keep).size + (m.filter fun key value => !keep key value).size :=
  List.length_eq_length_filter_add _

end SortedMap

/-! ### Registering -/

namespace Registry

variable (registry : Registry) (className : Option String) (records : List NativeRecord)
  (key : NativeKey)

/-- Registers the methods of several records for a class, one after the other. -/
def registerAll : Registry :=
  records.foldl (fun registry record => registry.register record.key ⟨className, record.pointer⟩)
    registry

/-- **The last record of a method counts.** A method without a record is bound as before. -/
theorem find?_registerAll :
    (registry.registerAll className records).find? key =
      ((records.reverse.find? (·.key = key)).map fun record =>
        ⟨className, record.pointer⟩).or (registry.find? key) := by
  -- Induction on the records: the first one is written over by any later one of its method.
  induction records generalizing registry with
  | nil => rfl
  | cons record records ih =>
    change ((registry.register record.key _).registerAll className records).find? key = _
    rw [ih, find?_register, List.reverse_cons, List.find?_append]
    cases records.reverse.find? (·.key = key) with
    | some last => rfl
    | none =>
      by_cases hkey : key = record.key
      · simp [hkey]
      · simp [hkey, Ne.symm hkey]

variable {registry className records key}

/-- A method with a record belongs to the class afterwards. -/
theorem find?_registerAll_of_mem (h : key ∈ records.map (·.key)) :
    ∃ pointer, (registry.registerAll className records).find? key = some ⟨className, pointer⟩ := by
  obtain ⟨record, hmem, hkey⟩ := List.mem_map.1 h
  have hsome : (records.reverse.find? (·.key = key)).isSome = true :=
    List.find?_isSome.2 ⟨record, List.mem_reverse.2 hmem, decide_eq_true hkey⟩
  obtain ⟨last, hlast⟩ := Option.isSome_iff_exists.1 hsome
  exact ⟨last.pointer, by rw [find?_registerAll, hlast]; rfl⟩

/-- A method without a record is bound as before. -/
theorem find?_registerAll_of_not_mem (h : key ∉ records.map (·.key)) :
    (registry.registerAll className records).find? key = registry.find? key := by
  have hnone : records.reverse.find? (·.key = key) = none := by
    refine List.find?_eq_none.2 fun record hmem hkey => h ?_
    exact List.mem_map.2 ⟨record, List.mem_reverse.1 hmem, of_decide_eq_true hkey⟩
  rw [find?_registerAll, hnone]
  rfl

/-! ### Dropping -/

/-- The methods that are not of a class, nor among some others. -/
def without (registry : Registry) (className : String) (keys : List NativeKey) : Registry :=
  ⟨registry.bindings.filter fun key binding => key ∉ keys ∧ binding.className ≠ some className⟩

/-- The methods of a class that are not among some others. -/
def ofClass (registry : Registry) (className : String) (keys : List NativeKey) : Registry :=
  ⟨registry.bindings.filter fun key binding => key ∉ keys ∧ binding.className = some className⟩

/-- What is left when records have been registered for a class and the class is dropped. -/
theorem unregister_registerAll (registry : Registry) (className : String)
    (records : List NativeRecord) :
    (registry.registerAll (some className) records).unregister className =
      registry.without className (records.map (·.key)) := by
  refine congrArg Registry.mk (SortedMap.ext_find? fun key => ?_)
  rw [SortedMap.find?_filter, SortedMap.find?_filter]
  change ((registry.registerAll (some className) records).find? key).filter _ =
    (registry.find? key).filter _
  -- A method with a record belongs to the class now, whoever had it before.
  by_cases hkey : key ∈ records.map (·.key)
  · obtain ⟨pointer, hfind⟩ : ∃ pointer, (registry.registerAll (some className) records).find? key =
        some ⟨some className, pointer⟩ := find?_registerAll_of_mem hkey
    rw [hfind]
    cases registry.find? key <;> simp [Option.filter, hkey]
  · rw [find?_registerAll_of_not_mem hkey]
    simp [hkey]

/-- `ofClass` has the methods that the class is bound to. -/
theorem mem_keys_ofClass {className : String} {keys : List NativeKey} :
    key ∈ (registry.ofClass className keys).bindings.keys ↔
      key ∉ keys ∧ ∃ pointer, registry.find? key = some ⟨some className, pointer⟩ := by
  rw [SortedMap.mem_keys_iff]
  simp only [ofClass, SortedMap.find?_filter]
  change ((registry.find? key).filter _).isSome = true ↔ _
  cases registry.find? key with
  | none => simp
  | some binding =>
    obtain ⟨owner, pointer⟩ := binding
    simp [Option.isSome_filter]

/-- The methods of a class after its records have been registered: those that have a record, and
those that it had before. -/
theorem keys_registerAll_perm (registry : Registry) (className : String)
    (records : List NativeRecord) :
    ((registry.registerAll (some className) records).ofClass className []).bindings.keys.Perm
      ((records.map (·.key)).dedup ++
        (registry.ofClass className (records.map (·.key))).bindings.keys) := by
  refine (List.perm_ext_iff_of_nodup (SortedMap.nodup_keys _) ?_).2 fun key => ?_
  · refine List.nodup_append.2 ⟨List.nodup_dedup _, SortedMap.nodup_keys _, ?_⟩
    rintro key hrecord _ hold rfl
    exact (mem_keys_ofClass.1 hold).1 (List.mem_dedup.1 hrecord)
  · rw [mem_keys_ofClass, List.mem_append, List.mem_dedup, mem_keys_ofClass]
    -- A method is counted among the records or among the old ones, never twice.
    by_cases hkey : key ∈ records.map (·.key)
    · have hfind : ∃ pointer, (registry.registerAll (some className) records).find? key =
          some ⟨some className, pointer⟩ := find?_registerAll_of_mem hkey
      simp only [hkey, hfind, List.not_mem_nil, not_false_eq_true, and_self, true_or]
    · rw [find?_registerAll_of_not_mem hkey]
      simp only [hkey, List.not_mem_nil, not_false_eq_true, true_and, false_or]

/-- As many methods are dropped as the class has. -/
theorem dropClass_count (registry : Registry) (className : String) :
    (registry.dropClass className).2 = (registry.ofClass className []).size := by
  -- The count is a difference of sizes: what the filter keeps is taken from all there is.
  have hsize := registry.bindings.size_eq_add_size_filter_not
    fun _ binding => binding.className ≠ some className
  have hdropped : (registry.bindings.filter fun _ binding =>
      !decide (binding.className ≠ some className)) = (registry.ofClass className []).bindings := by
    simp [ofClass]
  rw [hdropped] at hsize
  change registry.bindings.size - (registry.bindings.filter _).size = _
  rw [hsize]
  exact Nat.add_sub_cancel_left _ _

/-- **Dropping a class undoes its registrations.** When records have been registered for a class and
the class is dropped, the registry is left without the methods of the records and without the
methods that the class had before. The methods that are dropped are those of the records, each
counted once, and the others that the class had before. If it had none and no record is for a
method that was registered, the registry is as it was. -/
theorem dropClass_registerAll (registry : Registry) (className : String)
    (records : List NativeRecord) :
    ((registry.registerAll (some className) records).dropClass className).1 =
      registry.without className (records.map (·.key)) ∧
    ((registry.registerAll (some className) records).dropClass className).2 =
      (records.map (·.key)).dedup.length +
        (registry.ofClass className (records.map (·.key))).size ∧
    ((∀ key binding, registry.find? key = some binding →
        key ∉ records.map (·.key) ∧ binding.className ≠ some className) →
      ((registry.registerAll (some className) records).dropClass className).1 = registry) := by
  refine ⟨unregister_registerAll registry className records, ?_, fun hother => ?_⟩
  · rw [dropClass_count]
    have hlength := (keys_registerAll_perm registry className records).length_eq
    rwa [List.length_append, SortedMap.length_keys, SortedMap.length_keys] at hlength
  · refine (unregister_registerAll registry className records).trans ?_
    refine congrArg Registry.mk (SortedMap.ext_find? fun key => ?_)
    rw [SortedMap.find?_filter]
    cases hfind : registry.bindings.find? key with
    | none => rfl
    | some binding => exact Option.filter_some_pos (decide_eq_true (hother key binding hfind))

/-- A registry that has one method, of another class. -/
def clockRegistry : Registry := Registry.register {} ⟨"tick", "()V"⟩ ⟨some "Clock", 0x1000⟩

/-- Records of two methods, one of them with two functions. -/
def workerRecords : List NativeRecord :=
  [⟨⟨"run", "()V"⟩, 0x2000⟩, ⟨⟨"stop", "()V"⟩, 0x3000⟩, ⟨⟨"run", "()V"⟩, 0x4000⟩]

/-- Two methods are dropped, and the method of the other class stays. -/
theorem dropClass_registerAll_worker :
    ((clockRegistry.registerAll (some "Worker") workerRecords).dropClass "Worker").1 =
      clockRegistry ∧
    ((clockRegistry.registerAll (some "Worker") workerRecords).dropClass "Worker").2 = 2 := by
  obtain ⟨-, hcount, hsame⟩ := dropClass_registerAll clockRegistry "Worker" workerRecords
  refine ⟨hsame fun key binding hfind => ?_, hcount.trans (by decide)⟩
  rw [clockRegistry, find?_register] at hfind
  split at hfind
  case isTrue hkey =>
    cases hfind
    subst hkey
    decide
  case isFalse => cases hfind

end Registry

end NativeFlow
