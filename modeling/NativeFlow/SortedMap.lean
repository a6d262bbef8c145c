namespace NativeFlow

/-!
# Finite maps and sets in key order

Everything the replay reports by name is listed in the order of the names, so its tables are kept
as association lists that are sorted by key at all times.

* `Assoc.find?`, `Assoc.insert`: the operations on plain lists of pairs.
* `SortedMap`: such a list together with the proof that its keys strictly increase, which makes
  two maps equal as soon as they hold the same bindings (`SortedMap.ext_find?`).
* `SortedSet`: a map whose values carry nothing.
-/

namespace Assoc

variable {κ α β : Type} [Ord κ]

/-- The value of the first pair with the given key. -/
def find? (key : κ) : List (κ × α) → Option α
  | [] => none
  | (k, v) :: rest => if compare key k = .eq then some v else find? key rest

/-- Binds `key` to `value` in front of the first larger key, taking the place of an equal one. -/
def insert (key : κ) (value : α) : List (κ × α) → List (κ × α)
  | [] => [(key, value)]
  | (k, v) :: rest =>
    match compare key k with
    | .lt => (key, value) :: (k, v) :: rest
    | .eq => (key, value) :: rest
    | .gt => (k, v) :: insert key value rest

/-- The keys strictly increase along the list. -/
def Sorted (entries : List (κ × α)) : Prop :=
  entries.Pairwise fun a b => compare a.1 b.1 = .lt

/-- What `insert` binds is found under its key, and everything else as before. -/
theorem find?_insert [DecidableEq κ] [Std.LawfulEqOrd κ] (key key' : κ) (value : α)
    (entries : List (κ × α)) :
    find? key' (insert key value entries) =
      if key' = key then some value else find? key' entries := by
  -- The three cases are those of `insert`: in front of the entry, in its place, or further on.
  induction entries with
  | nil => simp [insert, find?]
  | cons entry rest ih =>
    obtain ⟨k, v⟩ := entry
    simp only [insert]
    split
    case h_1 => simp [find?]
    case h_2 h =>
      have hk : key = k := Std.compare_eq_iff_eq.1 h
      subst hk
      by_cases hkey : key' = key <;> simp [find?, hkey]
    case h_3 h =>
      have hk : key ≠ k := fun e => by simp [Std.compare_eq_iff_eq.2 e] at h
      simp only [find?, Std.compare_eq_iff_eq, ih]
      by_cases hkey : key' = key
      · simp [hkey, hk]
      · simp [hkey]

/-- A key is bound if it occurs. -/
theorem isSome_find?_iff [Std.LawfulEqOrd κ] {key : κ} {entries : List (κ × α)} :
    (find? key entries).isSome = true ↔ key ∈ entries.map Prod.fst := by
  induction entries with
  | nil => simp [find?]
  | cons entry rest ih =>
    simp only [find?, Std.compare_eq_iff_eq, List.map_cons, List.mem_cons, ← ih]
    split <;> simp_all

/-- An entry after `insert` is the new one, or was there before. -/
theorem mem_insert_fst {key : κ} {value : α} {entries : List (κ × α)} {entry : κ × α}
    (h : entry ∈ insert key value entries) : entry = (key, value) ∨ entry ∈ entries := by
  induction entries with
  | nil => simpa [insert] using h
  | cons head rest ih =>
    obtain ⟨k, v⟩ := head
    simp only [insert] at h
    split at h
    case h_1 => simpa using h
    case h_2 =>
      rcases List.mem_cons.1 h with h | h
      · exact .inl h
      · exact .inr (List.mem_cons_of_mem _ h)
    case h_3 =>
      rcases List.mem_cons.1 h with h | h
      · exact .inr (h ▸ List.mem_cons_self)
      · exact (ih h).imp_right (List.mem_cons_of_mem _)

/-- `insert` keeps the keys in order. -/
theorem Sorted.insert [Std.TransOrd κ] {entries : List (κ × α)} (h : Sorted entries) (key : κ)
    (value : α) : Sorted (Assoc.insert key value entries) := by
  induction entries with
  | nil => simp [Assoc.insert, Sorted]
  | cons entry rest ih =>
    obtain ⟨k, v⟩ := entry
    have hrest : Sorted rest := (List.pairwise_cons.1 h).2
    have hhead := (List.pairwise_cons.1 h).1
    simp only [Assoc.insert]
    split
    case h_1 hlt =>
      refine List.pairwise_cons.2 ⟨fun entry hmem => ?_, h⟩
      rcases List.mem_cons.1 hmem with he | hmem
      · exact he ▸ hlt
      · exact Std.TransCmp.lt_trans hlt (hhead entry hmem)
    case h_2 heq =>
      exact List.pairwise_cons.2
        ⟨fun entry hmem => Std.TransCmp.lt_of_eq_of_lt heq (hhead entry hmem), hrest⟩
    case h_3 hgt =>
      refine List.pairwise_cons.2 ⟨fun entry hmem => ?_, ih hrest⟩
      rcases mem_insert_fst hmem with he | hmem
      · exact he ▸ Std.OrientedCmp.gt_iff_lt.1 hgt
      · exact hhead entry hmem

theorem Sorted.filter {entries : List (κ × α)} (h : Sorted entries) (keep : κ × α → Bool) :
    Sorted (entries.filter keep) :=
  List.Pairwise.filter keep h

/-- A key below all others is not bound. -/
theorem find?_eq_none_of_lt [Std.LawfulEqOrd κ] {key : κ} {entries : List (κ × α)}
    (h : ∀ entry ∈ entries, compare key entry.1 = .lt) : find? key entries = none := by
  induction entries with
  | nil => rfl
  | cons entry rest ih =>
    have hlt := h entry List.mem_cons_self
    simp only [find?, hlt, reduceCtorEq, if_false]
    exact ih fun entry hmem => h entry (List.mem_cons_of_mem _ hmem)

/-- Sorted lists with the same bindings are the same list. -/
theorem Sorted.ext [Std.TransOrd κ] [Std.LawfulEqOrd κ] {entries entries' : List (κ × α)}
    (h : Sorted entries) (h' : Sorted entries')
    (heq : ∀ key, find? key entries = find? key entries') : entries = entries' := by
  induction entries generalizing entries' with
  | nil =>
    cases entries' with
    | nil => rfl
    | cons entry rest => simpa [find?, Std.compare_eq_iff_eq.2] using heq entry.1
  | cons entry rest ih =>
    obtain ⟨k, v⟩ := entry
    have hhead := (List.pairwise_cons.1 h).1
    cases entries' with
    | nil => simpa [find?, Std.compare_eq_iff_eq.2] using heq k
    | cons entry' rest' =>
      obtain ⟨k', v'⟩ := entry'
      have hhead' := (List.pairwise_cons.1 h').1
      have hself : compare k k = .eq := Std.compare_eq_iff_eq.2 rfl
      have hself' : compare k' k' = .eq := Std.compare_eq_iff_eq.2 rfl
      -- The smallest keys are equal, for the smaller one of them would be bound on one side only.
      have hkk : k = k' := by
        have hk := heq k
        have hk' := heq k'
        simp only [find?, hself, hself', if_true] at hk hk'
        cases hc : compare k k' with
        | eq => exact Std.compare_eq_iff_eq.1 hc
        | lt =>
          simp only [hc, reduceCtorEq, if_false] at hk
          rw [find?_eq_none_of_lt fun e hmem => Std.TransCmp.lt_trans hc (hhead' e hmem)] at hk
          exact absurd hk (by simp)
        | gt =>
          have hlt : compare k' k = .lt := Std.OrientedCmp.gt_iff_lt.1 hc
          simp only [hlt, reduceCtorEq, if_false] at hk'
          rw [find?_eq_none_of_lt fun e hmem => Std.TransCmp.lt_trans hlt (hhead e hmem)] at hk'
          exact absurd hk' (by simp)
      subst hkk
      have hv : v = v' := by simpa [find?, hself] using heq k
      subst hv
      have hrest : rest = rest' := by
        refine ih (List.pairwise_cons.1 h).2 (List.pairwise_cons.1 h').2 fun key => ?_
        by_cases hkey : compare key k = .eq
        · have : key = k := Std.compare_eq_iff_eq.1 hkey
          subst this
          rw [find?_eq_none_of_lt hhead, find?_eq_none_of_lt hhead']
        · simpa [find?, hkey] using heq key
      rw [hrest]

end Assoc

/-- A finite map: its bindings in strictly increasing order of their keys. -/
structure SortedMap (κ α : Type) [Ord κ] where
  entries : List (κ × α)
  sorted : Assoc.Sorted entries

namespace SortedMap

variable {κ α : Type} [Ord κ]

/-- The map without bindings. -/
def empty : SortedMap κ α := ⟨[], List.Pairwise.nil⟩

instance : Inhabited (SortedMap κ α) := ⟨empty⟩

/-- The value bound to a key. -/
def find? (m : SortedMap κ α) (key : κ) : Option α := Assoc.find? key m.entries

/-- Whether a key is bound. -/
def contains (m : SortedMap κ α) (key : κ) : Bool := (m.find? key).isSome

/-- Binds a key, replacing what it was bound to. -/
def insert [Std.TransOrd κ] (m : SortedMap κ α) (key : κ) (value : α) : SortedMap κ α where
  entries := Assoc.insert key value m.entries
  sorted := m.sorted.insert key value

/-- The bindings that pass a test. -/
def filter (m : SortedMap κ α) (keep : κ → α → Bool) : SortedMap κ α where
  entries := m.entries.filter fun entry => keep entry.1 entry.2
  sorted := m.sorted.filter _

/-- The number of bindings. -/
def size (m : SortedMap κ α) : Nat := m.entries.length

/-- The keys, in increasing order. -/
def keys (m : SortedMap κ α) : List κ := m.entries.map Prod.fst

/-- The values, in the order of their keys. -/
def values (m : SortedMap κ α) : List α := m.entries.map Prod.snd

@[simp] theorem find?_empty (key : κ) : (empty : SortedMap κ α).find? key = none := rfl

/-- The look-up law of `insert`, on maps. -/
@[simp] theorem find?_insert [DecidableEq κ] [Std.TransOrd κ] [Std.LawfulEqOrd κ]
    (m : SortedMap κ α) (key key' : κ) (value : α) :
    (m.insert key value).find? key' = if key' = key then some value else m.find? key' :=
  Assoc.find?_insert key key' value m.entries

/-- Maps that bind the same keys to the same values are equal. -/
theorem ext_find? [Std.TransOrd κ] [Std.LawfulEqOrd κ] {m m' : SortedMap κ α}
    (h : ∀ key, m.find? key = m'.find? key) : m = m' := by
  have hentries := m.sorted.ext m'.sorted h
  obtain ⟨entries, _⟩ := m
  obtain ⟨entries', _⟩ := m'
  cases hentries
  rfl

end SortedMap

/-! ### Counters -/

namespace SortedMap

variable {κ : Type} [Ord κ] [Std.TransOrd κ]

/-- Adds `amount` to the count of a key, where an unbound key counts zero. -/
def addCount (m : SortedMap κ Nat) (key : κ) (amount : Nat) : SortedMap κ Nat :=
  m.insert key ((m.find? key).getD 0 + amount)

end SortedMap

/-! ### Sets -/

/-- A finite set: its members in strictly increasing order. -/
structure SortedSet (κ : Type) [Ord κ] where
  members : SortedMap κ Unit

namespace SortedSet

variable {κ : Type} [Ord κ]

/-- The set without members. -/
def empty : SortedSet κ := ⟨.empty⟩

instance : Inhabited (SortedSet κ) := ⟨empty⟩

/-- The members, in increasing order. -/
def toList (s : SortedSet κ) : List κ := s.members.keys

/-- Whether `key` is a member. -/
def contains (s : SortedSet κ) (key : κ) : Bool := s.members.contains key

instance : Membership κ (SortedSet κ) := ⟨fun s key => s.contains key = true⟩

/-- The list of a set has its members. -/
theorem mem_toList [Std.LawfulEqOrd κ] {s : SortedSet κ} {key : κ} : key ∈ s.toList ↔ key ∈ s :=
  Assoc.isSome_find?_iff.symm

@[simp] theorem not_mem_empty [Std.LawfulEqOrd κ] {key : κ} : key ∉ (empty : SortedSet κ) := by
  rw [← mem_toList]
  exact List.not_mem_nil

variable [Std.TransOrd κ]

/-- Sets with the same members are equal. -/
theorem ext [Std.LawfulEqOrd κ] {s t : SortedSet κ} (h : ∀ key, key ∈ s ↔ key ∈ t) : s = t := by
  obtain ⟨m⟩ := s
  obtain ⟨m'⟩ := t
  have hmembers : m = m' := by
    apply SortedMap.ext_find?
    intro key
    have hsome : (m.find? key).isSome = true ↔ (m'.find? key).isSome = true := h key
    cases hm : m.find? key <;> cases hm' : m'.find? key <;> simp_all
  rw [hmembers]

/-- Adds a member. -/
def insert (s : SortedSet κ) (key : κ) : SortedSet κ := ⟨s.members.insert key ()⟩

/-- The set of the elements of a list. -/
def ofList (keys : List κ) : SortedSet κ := keys.foldl insert empty

/-- All members of both sets. -/
def union (s t : SortedSet κ) : SortedSet κ := t.toList.foldl insert s

variable [DecidableEq κ] [Std.LawfulEqOrd κ] {key : κ}

@[simp] theorem mem_insert {s : SortedSet κ} {new : κ} :
    key ∈ s.insert new ↔ key = new ∨ key ∈ s := by
  change ((s.members.insert new ()).find? key).isSome = true ↔
    _ ∨ (s.members.find? key).isSome = true
  rw [SortedMap.find?_insert]
  by_cases h : key = new <;> simp [h]

/-- Inserting one element after another adds all of them. -/
theorem mem_foldl_insert {s : SortedSet κ} {keys : List κ} :
    key ∈ keys.foldl insert s ↔ key ∈ s ∨ key ∈ keys := by
  induction keys generalizing s with
  | nil => simp
  | cons new keys ih =>
    rw [List.foldl_cons, ih, mem_insert, List.mem_cons]
    grind

@[simp] theorem mem_ofList {keys : List κ} : key ∈ ofList keys ↔ key ∈ keys := by
  simp [ofList, mem_foldl_insert]

@[simp] theorem mem_union {s t : SortedSet κ} : key ∈ s.union t ↔ key ∈ s ∨ key ∈ t := by
  rw [union, mem_foldl_insert, mem_toList]

end SortedSet

end NativeFlow
