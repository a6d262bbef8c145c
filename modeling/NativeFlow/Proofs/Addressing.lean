import NativeFlow.Interface.Naming
import NativeFlow.Proofs.List
import NativeFlow.Replay.Basic

namespace NativeFlow

/-!
# How functions are addressed and named

A function is addressed by its name, by its linker symbol or by its slot, and all three lead to the
same entry of the table. What the table says a function does is what its name says.

* `Interface.row_of_mem`: a function is the row of its slot.
* `Interface.eq_of_slot`, `Interface.eq_of_name`, `Interface.eq_of_symbol`: no two functions share a
  slot, a name or a symbol.
* `Interface.reserved_iff`: the first four slots are the reserved ones.
* `Interface.ofName?_name`: the table agrees with `Behaviour.ofName?` in what every function does.
* `Interface.exists_of_row`, `Interface.behaviour_of_row`: the function of a row, and what a
  function of that name does.
* `Target.Addresses`, `Target.resolve?_eq_some_iff`: what a target resolves to is what it addresses.
* `Interface.callName`, `Interface.ofName?_callName`: the names of functions that call methods, and
  what is read off them.
-/

/-! ### Texts that differ -/

/-- The number whose digits are the bytes of a text. Numbers are faster to compare than texts. -/
def textCode (text : String) : Nat :=
  text.toByteArray.data.toList.foldl (fun n byte => n * 256 + byte.toNat) 0

/-- Whether no number is listed twice. -/
def distinct : List Nat → Bool
  | [] => true
  | n :: rest => rest.all (fun m => !Nat.beq n m) && distinct rest

/-- `distinct` checks what it says. -/
theorem nodup_of_distinct {numbers : List Nat} (h : distinct numbers = true) : numbers.Nodup := by
  induction numbers with
  | nil => exact .nil
  | cons n rest ih =>
    rw [distinct, Bool.and_eq_true, List.all_eq_true] at h
    refine List.nodup_cons.2 ⟨fun hmem => ?_, ih h.2⟩
    simpa using h.1 n hmem

/-! ### The table -/

namespace Interface

variable {f g : Function}

/-- A function is the row of its slot. -/
theorem row_of_mem (h : f ∈ functions) : rows[f.slot]? = some (f.name, f.symbol, f.behaviour) := by
  unfold functions at h
  generalize rows = table at h ⊢
  obtain ⟨slot, hslot, rfl⟩ := List.mem_mapIdx.1 h
  exact List.getElem?_eq_getElem hslot

/-- A slot leads to the function that is in it. -/
theorem ofSlot?_eq_some_iff {slot : Nat} :
    ofSlot? slot = some f ↔ f ∈ functions ∧ f.slot = slot := by
  have hget : functions[slot]? =
      rows[slot]?.map fun row => ⟨slot, row.1, row.2.1, row.2.2⟩ := List.getElem?_mapIdx
  rw [ofSlot?]
  constructor
  · intro h
    refine ⟨List.mem_of_getElem? h, ?_⟩
    rw [hget] at h
    obtain ⟨row, -, rfl⟩ := Option.map_eq_some_iff.1 h
    rfl
  · rintro ⟨hf, rfl⟩
    rw [hget, row_of_mem hf]
    rfl

/-- No two functions have the same slot. -/
theorem eq_of_slot (hf : f ∈ functions) (hg : g ∈ functions) (h : f.slot = g.slot) : f = g := by
  have hfound := ofSlot?_eq_some_iff.2 ⟨hf, h⟩
  rw [ofSlot?_eq_some_iff.2 ⟨hg, rfl⟩] at hfound
  exact (Option.some.inj hfound).symm

/-- Functions differ in whatever the rows differ in. -/
theorem eq_of_key {key : (String × Option String × Behaviour) × Nat → Nat}
    (hkeys : distinct (rows.zipIdx.map key) = true) (hf : f ∈ functions) (hg : g ∈ functions)
    (h : key ((f.name, f.symbol, f.behaviour), f.slot) =
      key ((g.name, g.symbol, g.behaviour), g.slot)) : f = g := by
  -- The key of a function stands at the index of its slot, and no key stands at two indices.
  have hget {f : Function} (hf : f ∈ functions) : (rows.zipIdx.map key)[f.slot]? =
      some (key ((f.name, f.symbol, f.behaviour), f.slot)) := by
    rw [List.getElem?_map, List.getElem?_zipIdx, row_of_mem hf]
    simp
  have hlt := (List.getElem?_eq_some_iff.1 (hget hf)).1
  refine eq_of_slot hf hg ((List.getElem?_inj hlt (nodup_of_distinct hkeys)).1 ?_)
  rw [hget hf, hget hg, h]

set_option maxRecDepth 20000 in
/-- The reserved functions are those in the first four slots. -/
theorem reserved_iff (h : f ∈ functions) : f.behaviour = .reserved ↔ f.slot ≤ 3 := by
  have hrows : ∀ row ∈ rows.zipIdx, row.1.2.2 = .reserved ↔ row.2 ≤ 3 := by decide
  exact hrows ((f.name, f.symbol, f.behaviour), f.slot)
    (List.mem_zipIdx_iff_getElem?.2 (row_of_mem h))

set_option maxRecDepth 100000 in
/-- No two functions have the same name. -/
theorem eq_of_name (hf : f ∈ functions) (hg : g ∈ functions) (h : f.name = g.name) : f = g := by
  have hnames : distinct (rows.zipIdx.map fun row => textCode row.1.1) = true := by decide +kernel
  exact eq_of_key hnames hf hg (congrArg textCode h)

set_option maxRecDepth 100000 in
/-- No two functions have the same symbol. -/
theorem eq_of_symbol (hf : f ∈ functions) (hg : g ∈ functions) {symbol : String}
    (h : f.symbol = some symbol) (h' : g.symbol = some symbol) : f = g := by
  -- Rows without a symbol count for their slots, which are less than the number of any symbol.
  have hsymbols : distinct (rows.zipIdx.map fun row =>
      (row.1.2.1.map textCode).getD row.2) = true := by decide +kernel
  exact eq_of_key hsymbols hf hg (by simp [h, h'])

set_option maxRecDepth 100000 in
/-- **What a function does is read off its name**: the table agrees with `Behaviour.ofName?`. -/
theorem ofName?_name (h : f ∈ functions) : Behaviour.ofName? f.name = some f.behaviour := by
  have hrows : ∀ row ∈ rows, Behaviour.ofName? row.1 = some row.2.2 := by decide +kernel
  exact hrows _ (List.mem_of_getElem? (row_of_mem h))

/-- A name says what its function does. -/
theorem behaviour_of_name {name : String} {behaviour : Behaviour} (h : f ∈ functions)
    (hname : f.name = name) (hread : Behaviour.ofName? name = some behaviour) :
    f.behaviour = behaviour := by
  rw [← hname, ofName?_name h] at hread
  exact Option.some.inj hread

/-- The function of the row with the index `i`. -/
theorem exists_of_row {i : Nat} {name : String} {symbol : Option String} {behaviour : Behaviour}
    (h : rows[i]? = some (name, symbol, behaviour)) :
    ∃ f ∈ functions, f.name = name ∧ f.behaviour = behaviour := by
  have hfound : ofSlot? i = some ⟨i, name, symbol, behaviour⟩ := by
    rw [ofSlot?, functions, List.getElem?_mapIdx, h]
    rfl
  exact ⟨_, (ofSlot?_eq_some_iff.1 hfound).1, rfl, rfl⟩

/-- What a function with the name of the row with the index `i` does. -/
theorem behaviour_of_row {i : Nat} {name : String} {symbol : Option String} {behaviour : Behaviour}
    (h : rows[i]? = some (name, symbol, behaviour)) (hf : f ∈ functions) (hname : f.name = name) :
    f.behaviour = behaviour := by
  obtain ⟨g, hg, hname', hbehaviour⟩ := exists_of_row h
  have hread := ofName?_name hg
  rw [hname', hbehaviour] at hread
  exact behaviour_of_name hf hname hread

end Interface

/-! ### Targets -/

/-- A target addresses a function: by its name, of which one has an older spelling, by its symbol or
by its slot. -/
inductive Target.Addresses (f : Function) : Target → Prop
  | name (name : String) (h : Interface.spelling name = f.name) : Addresses f (.function name)
  | symbol (symbol : String) (h : f.symbol = some symbol) : Addresses f (.symbol symbol)
  | slot (index : UInt64) (h : index.toNat = f.slot) : Addresses f (.slot index)

/-- A function that a target addresses is one of the interface. -/
theorem Target.mem_of_resolve? {target : Target} {function : Function}
    (h : target.resolve? = some function) : function ∈ Interface.functions := by
  cases target with
  | function name =>
    rw [resolve?, Interface.ofName?] at h
    exact List.mem_of_find?_eq_some h
  | symbol name =>
    rw [resolve?, Interface.ofSymbol?] at h
    exact List.mem_of_find?_eq_some h
  | slot index => exact (Interface.ofSlot?_eq_some_iff.1 h).1

/-- **Addresses.** A target resolves to the function that it addresses. -/
theorem Target.resolve?_eq_some_iff {target : Target} {f : Function} :
    target.resolve? = some f ↔ f ∈ Interface.functions ∧ target.Addresses f := by
  constructor
  · intro h
    have hf := mem_of_resolve? h
    refine ⟨hf, ?_⟩
    cases target with
    | function name =>
      have hname : f.name = Interface.spelling name := by simpa using List.find?_some h
      exact .name name hname.symm
    | symbol symbol =>
      have hsymbol : f.symbol = some symbol := by simpa using List.find?_some h
      exact .symbol symbol hsymbol
    | slot index => exact .slot index (Interface.ofSlot?_eq_some_iff.1 h).2.symm
  · rintro ⟨hf, haddress⟩
    cases haddress with
    -- Names and symbols are searched for from the front, and there is no second one to be found.
    | name name hname =>
      refine find?_eq_some_of_unique hf (by simpa using hname.symm) fun g hg hname' => ?_
      exact Interface.eq_of_name hg hf ((of_decide_eq_true hname').trans hname)
    | symbol symbol hsymbol =>
      refine find?_eq_some_of_unique hf (by simpa using hsymbol) fun g hg hsymbol' => ?_
      exact Interface.eq_of_symbol hg hf (of_decide_eq_true hsymbol') hsymbol
    | slot index hslot => exact Interface.ofSlot?_eq_some_iff.2 ⟨hf, hslot.symm⟩

/-! ### Names -/

/-- Every kind. -/
def Kind.all : List Kind := [.void, .object, .string, .array] ++ Primitive.all.map .primitive

/-- Every binding. -/
def Binding.all : List Binding := [.virtual, .nonvirtual, .static]

/-- Every way to pass arguments. -/
def Passing.all : List Passing := [.variadic, .vaList, .array]

namespace Interface

variable {f : Function}

/-- The name of the function that calls methods with the given result and binding, whose arguments
are passed in the given way. -/
def callName (returns : Kind) (binding : Binding) (passing : Passing) : String :=
  "Call" ++ (binding.word ++ returns.word ++ "Method" ++ passing.ending)

/-- The name of the function that makes objects, with arguments that are passed in the given way. -/
def newObjectName (passing : Passing) : String := "NewObject" ++ passing.ending

/-- All combinations of results, bindings and ways to pass arguments. -/
def callShapes : List (Kind × Binding × Passing) :=
  Kind.all.flatMap fun returns => Binding.all.flatMap fun binding =>
    Passing.all.map fun passing => (returns, binding, passing)

/-- `callShapes` has all combinations. -/
theorem mem_callShapes (returns : Kind) (binding : Binding) (passing : Passing) :
    (returns, binding, passing) ∈ callShapes := by
  have hreturns : returns ∈ Kind.all := by
    cases returns with
    | primitive type => cases type <;> decide
    | _ => decide
  have hbinding : binding ∈ Binding.all := by cases binding <;> decide
  have hpassing : passing ∈ Passing.all := by cases passing <;> decide
  simp [callShapes, hreturns, hbinding, hpassing]

/-- A name that is put together for a kind is read as it was put together, if the kind stands in
names at all. -/
theorem ofName?_callName (returns : Kind) (binding : Binding) (passing : Passing) :
    Behaviour.ofName? (callName returns binding passing) =
      if returns ∈ Kind.worded then some (.invoke returns binding passing) else none := by
  -- There are few combinations, so each name is put together and read.
  have hshapes : ∀ shape ∈ callShapes,
      Behaviour.ofName? (callName shape.1 shape.2.1 shape.2.2) =
        if shape.1 ∈ Kind.worded then some (.invoke shape.1 shape.2.1 shape.2.2) else none := by
    decide +kernel
  exact hshapes (returns, binding, passing) (mem_callShapes returns binding passing)

/-- **Names of method calls.** A function with the name of a function that calls methods does what
its name says. -/
theorem behaviour_of_callName (h : f ∈ functions) {returns : Kind} {binding : Binding}
    {passing : Passing} (hname : f.name = callName returns binding passing) :
    f.behaviour = .invoke returns binding passing := by
  have hread := ofName?_name h
  rw [hname, ofName?_callName] at hread
  split at hread
  case isTrue => exact (Option.some.inj hread).symm
  case isFalse => cases hread

/-- A function with the name of one that makes objects makes objects. -/
theorem behaviour_of_newObjectName (h : f ∈ functions) {passing : Passing}
    (hname : f.name = newObjectName passing) : f.behaviour = .newObject := by
  refine behaviour_of_name h hname ?_
  cases passing <;> decide +kernel

end Interface

end NativeFlow
