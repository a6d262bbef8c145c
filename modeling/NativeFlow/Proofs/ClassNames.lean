import NativeFlow.Proofs.Handles
import NativeFlow.Proofs.Join

namespace NativeFlow

/-!
# Names of classes

A class goes by its name, whatever the name looks like, and an array type by the name of its
elements with one more bracket. Making an object of a class and asking the object for its class
gives the name back, and so does making arrays of arrays and taking elements of elements.

* `arrayName`: the name of an array type, by its elements and its dimensions. `arrayOf_arrayName`
  and `elementOf_arrayName` add and take one dimension.
* `OpenCall`, `OpenCall.chain`: calls that hand a value from one to the next.
* `OpenCall.Step`, `OpenCall.Walk`: which calls turn a class into an object and back, and how many
  dimensions they add or take.
* `OpenCall.result_of_step`, `OpenCall.chain_of_walk`: the names that they lead to.
* `OpenCall.className_kept`: the two ways back to the name of a class.
-/

/-! ### Names of array types -/

/-- A class or an array type as it is written behind the brackets of an array type. -/
def elementText (name : String) : List Char :=
  if name.toList.head? = some '[' then name.toList else 'L' :: name.toList ++ [';']

/-- The name of an array type is a bracket and its elements as `elementText` writes them. -/
theorem arrayOf_toList (name : String) : (arrayOf name).toList = '[' :: elementText name := by
  unfold arrayOf elementText
  split <;> simp

/-- **One dimension.** The elements of an array are what the array was made of. -/
theorem elementOf_arrayOf (name : String) : elementOf (arrayOf name) = name := by
  unfold elementOf
  rw [arrayOf_toList]
  by_cases hbracket : name.toList.head? = some '['
  · -- The name starts with a bracket, so nothing is taken off but the bracket of the array.
    obtain ⟨rest, hrest⟩ := List.head?_eq_some_iff.1 hbracket
    simp [elementText, hrest, ← String.toList_inj]
  · simp [elementText, hbracket]

/-- The name of the type of arrays with some dimensions, by the name of what they hold. -/
def arrayName (name : String) : Nat → String
  | 0 => name
  | dimensions + 1 =>
    String.ofList (List.replicate (dimensions + 1) '[' ++ elementText name)

/-- One dimension more is one bracket more. -/
theorem arrayOf_arrayName (name : String) (dimensions : Nat) :
    arrayOf (arrayName name dimensions) = arrayName name (dimensions + 1) := by
  rw [← String.toList_inj, arrayOf_toList]
  -- Only the first bracket puts the class between `L` and a semicolon.
  cases dimensions with
  | zero => simp [arrayName]
  | succ dimensions => simp [arrayName, elementText, List.replicate_succ]

/-- One dimension less is one bracket less. -/
theorem elementOf_arrayName (name : String) (dimensions : Nat) :
    elementOf (arrayName name (dimensions + 1)) = arrayName name dimensions := by
  rw [← arrayOf_arrayName, elementOf_arrayOf]

/-! ### Functions -/

namespace Interface

variable {f : Function}

/-- The functions that make a new reference to the same object. -/
def referenceNames : List String :=
  ["NewGlobalRef", "NewLocalRef", "NewWeakGlobalRef", "PopLocalFrame"]

/-- The functions whose result stands for the same as their first argument. -/
def aliasNames : List String := referenceNames ++ storageNames

/-- All of `referenceNames` are handled in the same way. -/
theorem behaviour_of_reference (hf : f ∈ functions) (hname : f.name ∈ referenceNames) :
    f.behaviour = .newReference := by
  simp only [referenceNames, List.mem_cons, List.not_mem_nil, or_false] at hname
  rcases hname with hname | hname | hname | hname
  · exact behaviour_of_row (i := 21) rfl hf hname
  · exact behaviour_of_row (i := 25) rfl hf hname
  · exact behaviour_of_row (i := 226) rfl hf hname
  · exact behaviour_of_row (i := 20) rfl hf hname

end Interface

/-- A call of a function with an argument that is left open. -/
structure OpenCall where
  function : Function
  machine : Machine
  catalog : Catalog
  natives : Registry
  /-- The arguments before the open one. -/
  before : List Value
  /-- The arguments after it. -/
  after : List Value

namespace OpenCall

/-- The call with the given value as its open argument. -/
def fill (o : OpenCall) (v : Value) : Call where
  machine := o.machine
  catalog := o.catalog
  natives := o.natives
  args := o.before ++ v :: o.after

/-- The result of the call. -/
def result? (o : OpenCall) (v : Value) : Option Value :=
  match o.function.call (o.fill v) with
  | .ok reply => reply.value?
  | .error _ => none

/-- The result of the last of some calls, each of which gets the result of the one before. -/
def chain (calls : List OpenCall) (v : Value) : Option Value :=
  calls.foldlM (fun v o => o.result? v) v

/-- The call goes to a function with one of the given names, and the open argument is at the given
position. -/
structure Calls (o : OpenCall) (names : List String) (position : Nat) : Prop where
  mem : o.function ∈ Interface.functions
  name : o.function.name ∈ names
  position : o.before.length = position

variable {o : OpenCall} {calls calls' : List OpenCall}

/-- The open argument is the value that the call is filled with. -/
theorem arg?_fill {position : Nat} (h : o.before.length = position) (v : Value) :
    (o.fill v).arg? position = some v := by
  subst h
  simp [fill, Call.arg?]

/-- The open argument as a class. -/
theorem classArg?_fill {position : Nat} (h : o.before.length = position) (v : Value) :
    (o.fill v).classArg? position = v.className? := by
  rw [Call.classArg?, arg?_fill h, Option.bind_some]

/-- The result is that of the reply. -/
theorem result?_of_call {v : Value} {reply : Reply} (h : o.function.call (o.fill v) = .ok reply) :
    o.result? v = reply.value? := by
  rw [result?, h]

/-- What is known about the result of a function that returns a new value. -/
theorem exists_result {behaviour : Behaviour} (h : o.function.behaviour = behaviour)
    (hreturns : behaviour.returns ≠ .void) (hstorage : behaviour ≠ .storage) (v : Value) :
    ∃ w, o.result? v = some w ∧ w.notes = (behaviour.effect (o.fill v)).notes := by
  obtain ⟨reply, w, hcall, -, hvalue, hnotes⟩ := Function.call_result h hreturns hstorage (o.fill v)
  exact ⟨w, (result?_of_call hcall).trans hvalue, hnotes⟩

/-- The first call of a chain hands its result to the others. -/
theorem chain_cons (o : OpenCall) (calls : List OpenCall) (v : Value) :
    chain (o :: calls) v = (o.result? v).bind (chain calls) := rfl

/-! ### Single calls -/

/-- A reference to a value, or its storage, is known to be all that the value is known to be. -/
theorem result_of_alias (h : o.Calls Interface.aliasNames 0) (v : Value) :
    ∃ w, o.result? v = some w ∧ w.notes = v.notes := by
  have harg : (o.fill v).arg? 0 = some v := arg?_fill h.position v
  -- A reference copies the notes, and storage is the argument itself.
  rcases List.mem_append.1 h.name with hname | hname
  · obtain ⟨w, hw, hnotes⟩ := exists_result (Interface.behaviour_of_reference h.mem hname)
      (by decide) (by decide) v
    refine ⟨w, hw, ?_⟩
    rw [hnotes, Behaviour.effect, Call.newReference, harg]
    rfl
  · obtain ⟨reply, hcall, hvalue⟩ :=
      Function.call_storage ((Interface.storage_iff h.mem).2 hname) harg
    exact ⟨v, (result?_of_call hcall).trans hvalue, rfl⟩

/-- An object that is made of a class is of that class. -/
theorem result_of_make
    (h : o.Calls ["AllocObject", "NewObject", "NewObjectV", "NewObjectA"] 0) {v : Value}
    {name : String} (hv : v.className? = some name) :
    ∃ w object, o.result? v = some w ∧ w.object? = some object ∧ object.javaType = name := by
  have hclass : (o.fill v).classArg? 0 = some name := (classArg?_fill h.position v).trans hv
  -- Without a constructor the object has no more than its type; with one it may be tainted as well.
  rcases List.mem_cons.1 h.name with hname | hname
  · obtain ⟨w, hw, hnotes⟩ := exists_result
      (Interface.behaviour_of_row (i := 27) rfl h.mem hname) (by decide) (by decide) v
    have hmade : w.notes = [.ofObject name] := by
      rw [hnotes, Behaviour.effect, Call.allocObject, hclass]
      rfl
    exact ⟨w, _, hw, by rw [Value.object?, hmade]; rfl, rfl⟩
  · obtain ⟨reply, w, object, hcall, hvalue, hobject, htype, -⟩ :=
      Function.call_constructor h.mem hname hclass
    exact ⟨w, object, (result?_of_call hcall).trans hvalue, hobject, htype⟩

/-- The class of an object is that of its type. -/
theorem result_of_ask (h : o.Calls ["GetObjectClass"] 0) {v : Value} {object : ObjectIdentity Note}
    (hv : v.object? = some object) :
    ∃ w, o.result? v = some w ∧ w.className? = some object.javaType := by
  have hbehaviour := Interface.behaviour_of_row (i := 31) rfl h.mem (List.mem_singleton.1 h.name)
  obtain ⟨w, hw, hnotes⟩ := exists_result hbehaviour (by decide) (by decide) v
  have hclass : w.notes = [.ofClass object.javaType] := by
    rw [hnotes, Behaviour.effect, Call.objectClass, arg?_fill h.position, Option.bind_some,
      Value.classOf?, hv]
    rfl
  exact ⟨w, hw, by rw [Value.className?, Value.class?, hclass]; rfl⟩

/-- An array of objects of a class has one dimension more than the class. -/
theorem result_of_array (h : o.Calls ["NewObjectArray"] 1) {v : Value} {name : String}
    (hv : v.className? = some name) :
    ∃ w object, o.result? v = some w ∧ w.object? = some object ∧
      object.javaType = arrayOf name := by
  have hbehaviour := Interface.behaviour_of_row (i := 172) rfl h.mem (List.mem_singleton.1 h.name)
  obtain ⟨w, hw, hnotes⟩ := exists_result hbehaviour (by decide) (by decide) v
  have hmade : w.notes = [.ofObject (arrayOf name)] := by
    rw [hnotes, Behaviour.effect, Call.newObjectArray, classArg?_fill h.position, hv]
    rfl
  exact ⟨w, _, hw, by rw [Value.object?, hmade]; rfl, rfl⟩

/-- An element of an array has one dimension less than the array. -/
theorem result_of_element (h : o.Calls ["GetObjectArrayElement"] 0) {v : Value}
    {array : ObjectIdentity Note} (hv : v.object? = some array) :
    ∃ w object, o.result? v = some w ∧ w.object? = some object ∧
      object.javaType = elementOf array.javaType := by
  have hbehaviour := Interface.behaviour_of_row (i := 173) rfl h.mem (List.mem_singleton.1 h.name)
  obtain ⟨w, hw, hnotes⟩ := exists_result hbehaviour (by decide) (by decide) v
  have hmade : w.notes =
      [(Note.object (.ofType array.source (elementOf array.javaType))).absorb array.taint] := by
    rw [hnotes, Behaviour.effect, Call.arrayElement, arg?_fill h.position, Option.bind_some, hv]
    rfl
  exact ⟨w, _, hw, by rw [Value.object?, hmade]; rfl, rfl⟩

/-! ### Chains of calls -/

/-- What a value of a chain stands for: a class or an object, of a type with some dimensions more
than the class at the start. -/
inductive Form where
  | classValue (dimensions : Nat)
  | object (dimensions : Nat)

/-- A value has a form, for a class with the given name at the start. -/
def Form.Fits (name : String) : Form → Value → Prop
  | .classValue dimensions, v => v.className? = some (arrayName name dimensions)
  | .object dimensions, v => ∃ o, v.object? = some o ∧ o.javaType = arrayName name dimensions

/-- What one call makes of a form. -/
inductive Step : Form → OpenCall → Form → Prop
  | pass (form : Form) {o : OpenCall} (h : o.Calls Interface.aliasNames 0) : Step form o form
  | make (k : Nat) {o : OpenCall}
      (h : o.Calls ["AllocObject", "NewObject", "NewObjectV", "NewObjectA"] 0) :
    Step (.classValue k) o (.object k)
  | ask (k : Nat) {o : OpenCall} (h : o.Calls ["GetObjectClass"] 0) :
    Step (.object k) o (.classValue k)
  | array (k : Nat) {o : OpenCall} (h : o.Calls ["NewObjectArray"] 1) :
    Step (.classValue k) o (.object (k + 1))
  | element (k : Nat) {o : OpenCall} (h : o.Calls ["GetObjectArrayElement"] 0) :
    Step (.object (k + 1)) o (.object k)

/-- What a chain of calls makes of a form. -/
inductive Walk : Form → List OpenCall → Form → Prop
  | nil (form : Form) : Walk form [] form
  | cons {first second last : Form} {o : OpenCall} {calls : List OpenCall}
      (hstep : Step first o second) (hrest : Walk second calls last) : Walk first (o :: calls) last

/-- **One call.** It has a result, which has the form that the call makes of the form of its
argument. -/
theorem result_of_step {form form' : Form} (h : Step form o form') {name : String} {v : Value}
    (hv : form.Fits name v) : ∃ w, o.result? v = some w ∧ form'.Fits name w := by
  cases h with
  | pass _ h =>
    obtain ⟨w, hw, hnotes⟩ := result_of_alias h v
    refine ⟨w, hw, ?_⟩
    -- Both forms look at the notes of a value only, and these are the same.
    cases form with
    | classValue k =>
      show w.className? = _
      rw [Value.className?, Value.class?, hnotes]
      exact hv
    | object k =>
      show ∃ object, w.object? = some object ∧ _
      rw [Value.object?, hnotes]
      exact hv
  | make k h =>
    obtain ⟨w, object, hw, hobject, htype⟩ := result_of_make h hv
    exact ⟨w, hw, object, hobject, htype⟩
  | ask k h =>
    obtain ⟨object, hobject, htype⟩ := hv
    obtain ⟨w, hw, hclass⟩ := result_of_ask h hobject
    exact ⟨w, hw, hclass.trans (congrArg some htype)⟩
  | array k h =>
    obtain ⟨w, object, hw, hobject, htype⟩ := result_of_array h hv
    exact ⟨w, hw, object, hobject, htype.trans (arrayOf_arrayName name k)⟩
  | element k h =>
    obtain ⟨array, harray, htype⟩ := hv
    obtain ⟨w, object, hw, hobject, htype'⟩ := result_of_element h harray
    exact ⟨w, hw, object, hobject, by rw [htype', htype, elementOf_arrayName]⟩

/-- **A chain of calls.** It has a result, which has the form that the calls lead to. -/
theorem chain_of_walk {form form' : Form} (h : Walk form calls form') {name : String} {v : Value}
    (hv : form.Fits name v) : ∃ w, chain calls v = some w ∧ form'.Fits name w := by
  -- Induction on the walk, with the value that the first call makes.
  induction h generalizing v with
  | nil => exact ⟨v, rfl, hv⟩
  | cons hstep _ ih =>
    obtain ⟨u, hu, hform⟩ := result_of_step hstep hv
    obtain ⟨w, hw, hform'⟩ := ih hform
    exact ⟨w, by rw [chain_cons, hu, Option.bind_some, hw], hform'⟩

/-- A walk may be continued where it ends. -/
theorem Walk.append {first second last : Form} (h : Walk first calls second)
    (h' : Walk second calls' last) : Walk first (calls ++ calls') last := by
  induction h with
  | nil => exact h'
  | cons hstep _ ih => exact .cons hstep (ih h')

/-- Aliases keep the form, however many there are. -/
theorem walk_of_aliases (h : ∀ o ∈ calls, o.Calls Interface.aliasNames 0) (form : Form) :
    Walk form calls form := by
  induction calls with
  | nil => exact .nil form
  | cons o calls ih =>
    exact .cons (.pass form (h o List.mem_cons_self))
      (ih fun o ho => h o (List.mem_cons_of_mem _ ho))

/-- Each further level of an array is made of the class of the level before. -/
theorem walk_of_levels {levels : List (OpenCall × OpenCall)}
    (h : ∀ level ∈ levels, level.1.Calls ["GetObjectClass"] 0 ∧ level.2.Calls ["NewObjectArray"] 1)
    (k : Nat) :
    Walk (.object k) (levels.flatMap fun level => [level.1, level.2])
      (.object (k + levels.length)) := by
  -- Each level is two calls: the class of the array so far, and an array of that class.
  induction levels generalizing k with
  | nil => exact .nil _
  | cons level levels ih =>
    obtain ⟨hask, harray⟩ := h level List.mem_cons_self
    have hrest := ih (fun level hmem => h level (List.mem_cons_of_mem _ hmem)) (k + 1)
    have hlength : k + (level :: levels).length = k + 1 + levels.length := by
      rw [List.length_cons]
      omega
    rw [hlength]
    exact .cons (.ask k hask) (.cons (.array k harray) hrest)

/-- Taking elements takes one dimension each. -/
theorem walk_of_elements (h : ∀ o ∈ calls, o.Calls ["GetObjectArrayElement"] 0) (k : Nat) :
    Walk (.object (k + calls.length)) calls (.object k) := by
  induction calls with
  | nil => exact .nil _
  | cons o calls ih =>
    exact .cons (.element _ (h o List.mem_cons_self))
      (ih fun o ho => h o (List.mem_cons_of_mem _ ho))

/-- **The name of a class is kept.** Take a class with any name.

* Make an object of it, with or without a constructor, and ask the object for its class: the class
  has that name. New references to the class or to the object, and their storage, may be used in
  between, any number of times.
* Make an array of it, then an array of the class of that array, and so on. The array with `k`
  dimensions is named by `k` brackets and the class. Take an element of it, then an element of that
  one, and so on `k` times, and ask the last one for its class: it has the name of the class at the
  start.

Every one of these calls has a result, whatever the machine, the catalog, the registered methods and
the other arguments are. -/
theorem className_kept {name : String} {v : Value} (hv : v.className? = some name) :
    (∀ (onClass : List OpenCall) (make : OpenCall) (onObject : List OpenCall) (ask : OpenCall),
      (∀ o ∈ onClass, o.Calls Interface.aliasNames 0) →
      make.Calls ["AllocObject", "NewObject", "NewObjectV", "NewObjectA"] 0 →
      (∀ o ∈ onObject, o.Calls Interface.aliasNames 0) →
      ask.Calls ["GetObjectClass"] 0 →
      ∃ w, chain (onClass ++ make :: onObject ++ [ask]) v = some w ∧ w.className? = some name) ∧
    (∀ (first : OpenCall) (levels : List (OpenCall × OpenCall)) (elements : List OpenCall)
      (ask : OpenCall), first.Calls ["NewObjectArray"] 1 →
      (∀ level ∈ levels,
        level.1.Calls ["GetObjectClass"] 0 ∧ level.2.Calls ["NewObjectArray"] 1) →
      (∀ o ∈ elements, o.Calls ["GetObjectArrayElement"] 0) →
      elements.length = levels.length + 1 →
      ask.Calls ["GetObjectClass"] 0 →
      ∃ array w, chain (first :: levels.flatMap fun level => [level.1, level.2]) v = some array ∧
        array.object?.map (·.javaType) =
          some (String.ofList (List.replicate (levels.length + 1) '[' ++ elementText name)) ∧
        chain (elements ++ [ask]) array = some w ∧ w.className? = some name) := by
  have hstart : (Form.classValue 0).Fits name v := hv
  constructor
  · intro onClass make onObject ask hclass hmake hobject hask
    have hwalk : Walk (.classValue 0) (onClass ++ (make :: (onObject ++ [ask]))) (.classValue 0) :=
      (walk_of_aliases hclass _).append (.cons (.make 0 hmake)
        ((walk_of_aliases hobject _).append (.cons (.ask 0 hask) (.nil _))))
    rw [List.append_assoc, List.cons_append]
    exact chain_of_walk hwalk hstart
  · intro first levels elements ask hfirst hlevels helements hlength hask
    -- Up by one dimension for the first array and by one for each level.
    have hbuild : Walk (.classValue 0) (first :: levels.flatMap fun level => [level.1, level.2])
        (.object (0 + 1 + levels.length)) :=
      .cons (.array 0 hfirst) (walk_of_levels hlevels 1)
    obtain ⟨array, harray, o, ho, htype⟩ := chain_of_walk hbuild hstart
    have hdepth : 0 + elements.length = 0 + 1 + levels.length := by omega
    -- And down again, one dimension for each element that is taken.
    have htake : Walk (.object (0 + elements.length)) (elements ++ [ask]) (.classValue 0) :=
      (walk_of_elements helements 0).append (.cons (.ask 0 hask) (.nil _))
    rw [hdepth] at htake
    obtain ⟨w, hw, hname⟩ := chain_of_walk htake ⟨o, ho, htype⟩
    refine ⟨array, w, harray, ?_, hw, hname⟩
    rw [ho, Option.map_some, htype, Nat.zero_add, Nat.add_comm 1, arrayName]

/-- A call of one of some functions is a call of one of more functions. -/
theorem Calls.mono {name : String} {names : List String} {position : Nat}
    (h : o.Calls [name] position) (hmem : name ∈ names) : o.Calls names position :=
  ⟨h.mem, List.mem_singleton.1 h.name ▸ hmem, h.position⟩

/-- The function of a row can be called, with given arguments before the open one. -/
theorem exists_calls {i : Nat} {name : String} {symbol : Option String} {behaviour : Behaviour}
    (h : Interface.rows[i]? = some (name, symbol, behaviour)) (before : List Value) :
    ∃ o : OpenCall, o.Calls [name] before.length := by
  obtain ⟨f, hf, hname, -⟩ := Interface.exists_of_row h
  exact ⟨⟨f, { pointerBits := 64 }, {}, {}, before, []⟩, hf, List.mem_singleton.2 hname, rfl⟩

/-- The class of arrays of numbers. -/
def numbers : Value := ⟨1, 64, [.classIdentity { className := "[I" }]⟩

/-- An object of the class of arrays of numbers gives its class back through references, and so does
an element of an element of an array of arrays of them. -/
theorem className_kept_numbers :
    ∃ reference storage make ask array element : OpenCall,
      reference.Calls ["NewGlobalRef"] 0 ∧ storage.Calls ["GetIntArrayElements"] 0 ∧
      make.Calls ["NewObjectA"] 0 ∧ ask.Calls ["GetObjectClass"] 0 ∧
      array.Calls ["NewObjectArray"] 1 ∧ element.Calls ["GetObjectArrayElement"] 0 ∧
      (∃ w, chain [reference, storage, make, storage, reference, ask] numbers = some w ∧
        w.className? = some "[I") ∧
      ∃ nested w, chain [array, ask, array] numbers = some nested ∧
        nested.object?.map (·.javaType) = some "[[[I" ∧
        chain [element, element, ask] nested = some w ∧ w.className? = some "[I" := by
  obtain ⟨reference, hreference⟩ := exists_calls (i := 21) rfl []
  obtain ⟨storage, hstorage⟩ := exists_calls (i := 187) rfl []
  obtain ⟨make, hmake⟩ := exists_calls (i := 30) rfl []
  obtain ⟨ask, hask⟩ := exists_calls (i := 31) rfl []
  obtain ⟨array, harray⟩ := exists_calls (i := 172) rfl [⟨2, 32, []⟩]
  obtain ⟨element, helement⟩ := exists_calls (i := 173) rfl []
  have haliases : ∀ o ∈ [reference, storage], o.Calls Interface.aliasNames 0 := by
    rintro o (_ | ⟨_, _ | ⟨_, ⟨⟩⟩⟩)
    · exact hreference.mono (by decide)
    · exact hstorage.mono (by decide)
  have hlevels : ∀ level ∈ [(ask, array)],
      level.1.Calls ["GetObjectClass"] 0 ∧ level.2.Calls ["NewObjectArray"] 1 := by
    rintro level (_ | ⟨_, ⟨⟩⟩)
    exact ⟨hask, harray⟩
  have helements : ∀ o ∈ [element, element], o.Calls ["GetObjectArrayElement"] 0 := by
    rintro o (_ | ⟨_, _ | ⟨_, ⟨⟩⟩⟩) <;> exact helement
  have hname : numbers.className? = some "[I" := rfl
  obtain ⟨hobject, harrays⟩ := className_kept hname
  refine ⟨reference, storage, make, ask, array, element, hreference, hstorage, hmake, hask, harray,
    helement, ?_, ?_⟩
  · exact hobject [reference, storage] make [storage, reference] ask haliases
      (hmake.mono (by decide)) (fun o ho => haliases o (List.mem_reverse.1 ho)) hask
  · exact harrays array [(ask, array)] [element, element] ask harray hlevels helements rfl hask

end OpenCall

end NativeFlow
