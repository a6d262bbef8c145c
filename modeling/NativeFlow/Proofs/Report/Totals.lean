import Mathlib.Algebra.Ring.Nat
import NativeFlow.Proofs.Accounting
import NativeFlow.Proofs.ByteOrder
import NativeFlow.Proofs.Memory
import NativeFlow.Proofs.Report.Written

namespace NativeFlow

/-!
# The totals of a report

What a report counts over several traces is the sum of what it counts for each of them, so the order
of the traces does not matter for it.

* `Coverage.find?_mergeCounts`: the counter of one function after a merge.
* `Coverage.IsSum`: every counter is the sum of the counters of the parts
  (`Coverage.isSum_foldl_merge`). There is only one such coverage (`Coverage.IsSum.unique`), in
  whatever order the parts come (`Coverage.IsSum.perm`).
* `ReplayedTrace.ListsNatives`: the native methods of one trace, in the order of their names.
* `Summary.length_aborted`, `Summary.length_natives`: the sums of the other two counts.
-/

/-! ### Counters -/

/-- The value of a counter; one that is not there counts nothing. -/
def SortedMap.count (counts : SortedMap String Nat) (name : String) : Nat :=
  (counts.find? name).getD 0

/-- The entries of a map with distinct keys are added one by one. -/
theorem SortedMap.find?_foldl_addCount (name : String) {entries : List (String × Nat)}
    (hsorted : Assoc.Sorted entries) (counts : SortedMap String Nat) :
    (entries.foldl (fun counts entry => counts.addCount entry.1 entry.2) counts).find? name =
      Option.merge (· + ·) (counts.find? name) (Assoc.find? name entries) := by
  induction entries generalizing counts with
  | nil => cases hfind : counts.find? name <;> simp [Assoc.find?, hfind]
  | cons entry rest ih =>
    obtain ⟨hhead, hrest⟩ := List.pairwise_cons.1 hsorted
    rw [List.foldl_cons, ih hrest, addCount, find?_insert]
    by_cases hname : name = entry.1
    · -- No later entry has the same key.
      subst hname
      rw [Assoc.find?_eq_none_of_lt hhead]
      cases hfind : counts.find? entry.1 <;> simp [Assoc.find?]
    · simp [Assoc.find?, hname]

/-- Counters are the same if they count the same and list the same names, zeros included. -/
theorem SortedMap.ext_count {counts counts' : SortedMap String Nat}
    (hcount : ∀ name, counts.count name = counts'.count name)
    (hcontains : ∀ name, counts.contains name = counts'.contains name) : counts = counts' := by
  refine ext_find? fun name => ?_
  have hcount := hcount name
  have hcontains := hcontains name
  unfold count at hcount
  unfold contains at hcontains
  cases hfind : counts.find? name <;> cases hfind' : counts'.find? name <;> simp_all

namespace Coverage

variable {total total' : Coverage} {parts parts' : List Coverage}

/-- **One counter after a merge:** the sum of the two where both are there, and else the one that
is. -/
theorem find?_mergeCounts (counts more : SortedMap String Nat) (name : String) :
    (mergeCounts counts more).find? name =
      Option.merge (· + ·) (counts.find? name) (more.find? name) :=
  SortedMap.find?_foldl_addCount name more.sorted counts

/-- What a counter counts after a merge. -/
theorem count_mergeCounts (counts more : SortedMap String Nat) (name : String) :
    (mergeCounts counts more).count name = counts.count name + more.count name := by
  simp only [SortedMap.count, find?_mergeCounts]
  cases counts.find? name <;> cases more.find? name <;> simp

/-- A function is listed after a merge if it was listed on one of the two sides. -/
theorem contains_mergeCounts (counts more : SortedMap String Nat) (name : String) :
    (mergeCounts counts more).contains name = (counts.contains name || more.contains name) := by
  simp only [SortedMap.contains, find?_mergeCounts]
  cases counts.find? name <;> cases more.find? name <;> rfl

/-! ### Sums of coverage -/

/-- Every counter is the sum of the counters of the parts, and a function is listed if it is listed
in a part. -/
structure IsSum (total : Coverage) (parts : List Coverage) : Prop where
  modeled : total.modeled = (parts.map (·.modeled)).sum
  fallback : total.fallback = (parts.map (·.fallback)).sum
  faults : total.faults = (parts.map (·.faults)).sum
  perFunction : ∀ name,
    total.perFunction.count name = (parts.map (·.perFunction.count name)).sum
  listed : ∀ name,
    total.perFunction.contains name = parts.any (·.perFunction.contains name)
  fallbackFunctions : ∀ name,
    total.fallbackFunctions.count name = (parts.map (·.fallbackFunctions.count name)).sum
  fallbackListed : ∀ name,
    total.fallbackFunctions.contains name = parts.any (·.fallbackFunctions.contains name)

/-- What a merge adds up is added up over all parts. -/
theorem add_foldl_merge {f : Coverage → Nat} (hmerge : ∀ a b, f (a.merge b) = f a + f b)
    (start : Coverage) (parts : List Coverage) :
    f (parts.foldl merge start) = f start + (parts.map f).sum := by
  induction parts generalizing start with
  | nil => simp
  | cons part parts ih =>
    rw [List.foldl_cons, ih, hmerge, List.map_cons, List.sum_cons, Nat.add_assoc]

/-- What holds after a merge if it holds of one of the two holds if it holds of any part. -/
theorem or_foldl_merge {f : Coverage → Bool} (hmerge : ∀ a b, f (a.merge b) = (f a || f b))
    (start : Coverage) (parts : List Coverage) :
    f (parts.foldl merge start) = (f start || parts.any f) := by
  induction parts generalizing start with
  | nil => simp
  | cons part parts ih =>
    rw [List.foldl_cons, ih, hmerge, List.any_cons, Bool.or_assoc]

/-- **Merged coverage is the sum of its parts,** counter by counter. -/
theorem isSum_foldl_merge (parts : List Coverage) : (parts.foldl merge {}).IsSum parts := by
  -- Each of the counters is added up and each of the lists put together, by the two lemmas above.
  constructor
  case modeled => exact (add_foldl_merge (fun _ _ => rfl) {} parts).trans (Nat.zero_add _)
  case fallback => exact (add_foldl_merge (fun _ _ => rfl) {} parts).trans (Nat.zero_add _)
  case faults => exact (add_foldl_merge (fun _ _ => rfl) {} parts).trans (Nat.zero_add _)
  case perFunction =>
    intro name
    exact (add_foldl_merge (f := (·.perFunction.count name))
      (fun _ _ => count_mergeCounts _ _ name) {} parts).trans (Nat.zero_add _)
  case listed =>
    intro name
    exact or_foldl_merge (f := (·.perFunction.contains name))
      (fun _ _ => contains_mergeCounts _ _ name) {} parts
  case fallbackFunctions =>
    intro name
    exact (add_foldl_merge (f := (·.fallbackFunctions.count name))
      (fun _ _ => count_mergeCounts _ _ name) {} parts).trans (Nat.zero_add _)
  case fallbackListed =>
    intro name
    exact or_foldl_merge (f := (·.fallbackFunctions.contains name))
      (fun _ _ => contains_mergeCounts _ _ name) {} parts

namespace IsSum

/-- A sum does not depend on the order of its parts. -/
theorem perm (h : total.IsSum parts) (hperm : parts.Perm parts') : total.IsSum parts' where
  modeled := h.modeled.trans (hperm.map _).sum_nat
  fallback := h.fallback.trans (hperm.map _).sum_nat
  faults := h.faults.trans (hperm.map _).sum_nat
  perFunction name := (h.perFunction name).trans (hperm.map _).sum_nat
  listed name := (h.listed name).trans hperm.any_eq
  fallbackFunctions name := (h.fallbackFunctions name).trans (hperm.map _).sum_nat
  fallbackListed name := (h.fallbackListed name).trans hperm.any_eq

/-- There is one sum only: its counters and its lists of functions are determined. -/
theorem unique (h : total.IsSum parts) (h' : total'.IsSum parts) : total = total' := by
  have hmodeled := h.modeled.trans h'.modeled.symm
  have hfallback := h.fallback.trans h'.fallback.symm
  have hfaults := h.faults.trans h'.faults.symm
  have hfunctions : total.perFunction = total'.perFunction :=
    SortedMap.ext_count (fun name => (h.perFunction name).trans (h'.perFunction name).symm)
      fun name => (h.listed name).trans (h'.listed name).symm
  have hfallbacks : total.fallbackFunctions = total'.fallbackFunctions :=
    SortedMap.ext_count
      (fun name => (h.fallbackFunctions name).trans (h'.fallbackFunctions name).symm)
      fun name => (h.fallbackListed name).trans (h'.fallbackListed name).symm
  cases total
  cases total'
  simp only [mk.injEq]
  exact ⟨hmodeled, hfallback, hfaults, hfunctions, hfallbacks⟩

end IsSum

end Coverage

/-! ### Native methods -/

/-- Keys by name, then by descriptor, both in the order of bytes. -/
def NativeKey.Before (a b : NativeKey) : Prop :=
  Utf8.encode a.name < Utf8.encode b.name ∨
    a.name = b.name ∧ Utf8.encode a.signature < Utf8.encode b.signature

/-- The order of keys is the order of bytes of their names and descriptors. -/
theorem NativeKey.before_of_compare {a b : NativeKey} (h : compare a b = .lt) : a.Before b := by
  change (compare a.name b.name).then (compare a.signature b.signature) = .lt at h
  cases hname : compare a.name b.name with
  | lt => exact .inl (Utf8.encode_lt_encode hname)
  | gt => simp [hname] at h
  | eq =>
    rw [hname] at h
    exact .inr ⟨Std.compare_eq_iff_eq.1 hname, Utf8.encode_lt_encode h⟩

/-- In a sorted list every entry is found under its key. -/
theorem Assoc.find?_of_mem {κ α : Type} [Ord κ] [Std.TransOrd κ] [Std.LawfulEqOrd κ] {key : κ}
    {value : α} {entries : List (κ × α)} (hsorted : Sorted entries)
    (hmem : (key, value) ∈ entries) : find? key entries = some value := by
  induction entries with
  | nil => exact absurd hmem List.not_mem_nil
  | cons entry rest ih =>
    obtain ⟨hhead, hrest⟩ := List.pairwise_cons.1 hsorted
    rcases List.mem_cons.1 hmem with rfl | hmem
    · simp [find?]
    · -- The first key is less than that of any later entry, so it is another one.
      have hlt := hhead _ hmem
      have hne : compare key entry.1 ≠ .eq := by
        rw [Std.OrientedCmp.gt_of_lt hlt]
        exact Ordering.noConfusion
      rw [find?, if_neg hne]
      exact ih hrest hmem

/-- The native methods that are registered at the end of a trace, each once and in the order of
their keys. -/
structure ReplayedTrace.ListsNatives (trace : ReplayedTrace) (natives : List RegisteredNative) :
    Prop where
  mem : ∀ native, native ∈ natives ↔
    native.trace = trace.uri ∧ trace.replay.natives.find? native.key = some native.binding
  ordered : natives.Pairwise fun a b => a.key.Before b.key
  length : natives.length = trace.replay.natives.size

/-- The bindings of a registry are listed as `ListsNatives` asks for, for they are sorted. -/
theorem ReplayedTrace.listsNatives (trace : ReplayedTrace) :
    trace.ListsNatives (trace.replay.natives.bindings.entries.map fun entry =>
      { trace := trace.uri, key := entry.1, binding := entry.2 }) := by
  have hsorted := trace.replay.natives.bindings.sorted
  constructor
  case mem =>
    intro native
    rw [List.mem_map]
    constructor
    · rintro ⟨⟨key, binding⟩, hmem, rfl⟩
      exact ⟨rfl, Assoc.find?_of_mem hsorted hmem⟩
    · rintro ⟨htrace, hfind⟩
      exact ⟨(native.key, native.binding), Assoc.mem_of_find? hfind, by rw [← htrace]⟩
  case ordered => exact List.pairwise_map.2 (hsorted.imp NativeKey.before_of_compare)
  case length => exact List.length_map _

/-! ### Summaries -/

namespace Summary

variable (traces : List ReplayedTrace) (catalogEntries : Nat)

/-- The coverage of a summary is the sum of that of its traces. -/
theorem isSum_coverage :
    (ofTraces traces catalogEntries).coverage.IsSum (traces.map (·.replay.coverage)) :=
  Coverage.isSum_foldl_merge _

/-- The order of the traces does not matter for the coverage of a summary. -/
theorem coverage_perm {traces traces' : List ReplayedTrace} (h : traces'.Perm traces) :
    (ofTraces traces' catalogEntries).coverage = (ofTraces traces catalogEntries).coverage :=
  ((isSum_coverage traces' catalogEntries).perm (h.map _)).unique
    (isSum_coverage traces catalogEntries)

/-- A summary has one entry for each trace that was not replayed to its end. -/
theorem length_aborted :
    (ofTraces traces catalogEntries).aborted.length =
      traces.countP (·.replay.aborted.isSome) := by
  rw [ofTraces, List.length_filterMap_eq_countP]
  simp only [Option.isSome_map]

/-- A summary lists the native methods of all traces. -/
theorem length_natives :
    (ofTraces traces catalogEntries).natives.length =
      (traces.map (·.replay.natives.size)).sum := by
  rw [ofTraces, List.length_flatMap]
  simp only [List.length_map]
  rfl

/-- Each trace that was not replayed to its end has one call that failed. -/
theorem faults_eq_length_aborted
    (h : ∀ trace ∈ traces,
      trace.replay.coverage.faults = if trace.replay.aborted.isSome then 1 else 0) :
    (ofTraces traces catalogEntries).coverage.faults =
      (ofTraces traces catalogEntries).aborted.length := by
  rw [(isSum_coverage traces catalogEntries).faults, length_aborted, List.map_map]
  induction traces with
  | nil => rfl
  | cons trace traces ih =>
    obtain ⟨htrace, htraces⟩ := List.forall_mem_cons.1 h
    rw [List.map_cons, List.sum_cons, List.countP_cons, ih htraces, Function.comp_apply, htrace,
      Nat.add_comm]

end Summary

end NativeFlow
