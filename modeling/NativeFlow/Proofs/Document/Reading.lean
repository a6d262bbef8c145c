import NativeFlow.Proofs.Document.Members

namespace NativeFlow

open Json (Blank Spelled Kept Enclosed Listed)

/-!
# Trace documents denote traces

Whatever the order of its members and however its values are spelled, a document is read as the
trace that it describes, and what stands behind it is left alone.

* `Trace.builds_region`, `Trace.builds_input`, `Trace.builds_call`: the members of a part.
* `Trace.reads_region`, `Trace.reads_input`, `Trace.reads_call`: a part of a trace.
* `Trace.builds_document`, `Trace.documentItems_of_enclosed`: the parts of a document.
* `Trace.ofText_document`: every text of every document of a trace is read as this trace.
-/

namespace Trace

open Reader

variable {α : Type} {members : List (String × Json)}

/-! ### Words and lists -/

/-- A number of 64 bits is read back as itself. -/
theorem reads_word64 (value : UInt64) : Reads word64 (.natural value.toNat) value := by
  refine (reads_natural value.toNat_lt value.toNat_lt).bind fun rest => ?_
  rw [UInt64.ofNat_toNat]
  rfl

/-- So is one of 32 bits. -/
theorem reads_word32 (value : UInt32) : Reads word32 (.natural value.toNat) value := by
  have hbound := value.toNat_lt
  refine (reads_natural hbound (Nat.lt_trans hbound (by decide))).bind fun rest => ?_
  rw [UInt32.ofNat_toNat]
  rfl

/-- A number of 64 bits in a value that has been kept. -/
theorem number?_uint64 (value : UInt64) :
    number? Written.bound UInt64.ofNat (.natural value.toNat) = some value := by
  have hbound : value.toNat < Written.bound := value.toNat_lt
  rw [number?, Json.natural?, if_pos hbound, Option.map_some, UInt64.ofNat_toNat]

theorem number?_uint8 (value : UInt8) :
    number? 0x100 UInt8.ofNat (.natural value.toNat) = some value := by
  rw [number?, Json.natural?, if_pos value.toNat_lt, Option.map_some, UInt8.ofNat_toNat]

/-- `Json.list?` undoes `List.map write` where `read` undoes `write`. -/
theorem list?_map {read : Json → Option α} {write : α → Json} (h : ∀ a, read (write a) = some a)
    (as : List α) : (Json.array (as.map write)).list? read = some as := by
  rw [Json.list?]
  -- Induction on the elements: all of them can be read, so the traversal goes to the end.
  induction as with
  | nil => rfl
  | cons a as ih => simp only [List.map_cons, List.mapM_cons, h, ih]; rfl

/-! ### Regions -/

/-- Each of the three forms of the contents of a region is read back under its own name. -/
theorem contentsForm_field (contents : RegionContents) :
    Gathered.firstForm? [contents.field.member] contentsForm = some contents := by
  cases contents with
  | text value => rfl
  | bytes values =>
    rw [firstForm?_singleton rfl]
    exact congrArg (Option.map RegionContents.bytes) (list?_map number?_uint8 values)
  | words values =>
    rw [firstForm?_singleton rfl]
    exact congrArg (Option.map RegionContents.words) (list?_map number?_uint64 values)

theorem required_contents (contents : RegionContents) : contents.field.isDefault = false := by
  cases contents <;> rfl

/-- No form of the contents goes under the name `address`, so they are gathered. -/
theorem name_of_contents (contents : RegionContents) : contents.field.name ≠ "address" := by
  cases contents <;> simp [RegionContents.field]

/-- What has been read of a region once some of its members have been read. -/
def regionDraft (region : Region) (done : List (String × Json)) : Option UInt64 × Gathered :=
  (slot "address" region.address done, gathered ["address"] done)

/-- The members of a region, one by one. -/
theorem builds_region {region : Region} (h : Shows region.fields members) :
    Builds Trace.region.member (regionDraft region) members := by
  intro done m left hsplit
  obtain ⟨field, hfield, rfl⟩ := h.sound m (by simp [hsplit])
  have hfresh := h.fresh hsplit
  rw [regionDraft, regionDraft]
  -- The address fills its slot, the contents are gathered under any of their names.
  simp only [Region.fields, List.mem_cons, List.not_mem_nil, or_false] at hfield
  rcases hfield with rfl | rfl
  · rw [gathered_append_of_mem (by simp)]
    exact (single_slot (reads_word64 region.address) hfresh).bind fun _ => rfl
  · have hname := name_of_contents region.contents
    rw [slot_append_of_ne _ (Ne.symm hname), Field.member_fst, Trace.region.member.eq_2 _ _ _ hname]
    exact (gather_gathered (kept_field_of_contents region.contents) (by simpa using hname)).bind
      fun _ => rfl

/-- **A region is read from every object that describes it.** -/
theorem reads_region {region : Region} {json : Json} (h : Describes region.fields json) :
    Reads Trace.region json region := by
  cases h with
  | @object members h =>
    have haddress : slot "address" region.address members = some region.address :=
      slot_of_required region.address h List.mem_cons_self rfl
    have hcontents : gathered ["address"] members = [region.contents.field.member] := by
      have hname := name_of_contents region.contents
      refine gathered_eq_singleton h (List.mem_cons_of_mem _ List.mem_cons_self)
        (required_contents _) (by simpa using hname) fun other hother hslots => ?_
      simp only [Region.fields, List.mem_cons, List.not_mem_nil, or_false] at hother
      rcases hother with rfl | rfl
      · simp at hslots
      · rfl
    refine (reads_object (builds_region h)).bind fun rest => ?_
    rw [regionDraft, haddress, hcontents]
    dsimp only
    rw [contentsForm_field]
    rfl

/-! ### Inputs -/

/-- No member of a value is called `name`. -/
theorem name_not_mem_inputValue (value : InputValue) : "name" ∉ value.fields.map Field.name := by
  cases value <;> simp [InputValue.fields, InputValue.typeFields]

/-- What has been read of an input once some of its members have been read. -/
def inputDraft (input : Input) (done : List (String × Json)) : Option String × Gathered :=
  (slot "name" input.name done, gathered ["name"] done)

/-- The members of an input, one by one. -/
theorem builds_input {input : Input} (h : Shows input.fields members) :
    Builds Trace.input.member (inputDraft input) members := by
  intro done m left hsplit
  obtain ⟨field, hfield, rfl⟩ := h.sound m (by simp [hsplit])
  have hfresh := h.fresh hsplit
  rw [inputDraft, inputDraft]
  rcases List.mem_cons.1 hfield with rfl | hfield
  · rw [gathered_append_of_mem (by simp)]
    exact (single_slot (reads_text input.name) hfresh).bind fun _ => rfl
  -- All members but the name belong to the value, whose kind is not known yet: they are gathered.
  · have hname : field.name ≠ "name" := fun heq =>
      name_not_mem_inputValue input.value (heq ▸ List.mem_map_of_mem hfield)
    rw [slot_append_of_ne _ (Ne.symm hname), Field.member_fst, Trace.input.member.eq_2 _ _ _ hname]
    exact (gather_gathered (kept_inputValue input.value field hfield) (by simpa using hname)).bind
      fun _ => rfl

/-- The kind of a value. -/
def kindOf : InputValue → InputKind
  | .object .. => .object
  | .classObject .. => .classObject
  | .string .. => .string
  | .primitive .. => .primitive

/-- Every value has a member that says of what kind it is. -/
theorem kind_mem_fields (value : InputValue) :
    ⟨"kind", .string (kindOf value).name, false⟩ ∈ value.fields := by
  cases value <;> exact List.mem_cons_self

/-- `InputKind.ofJson?` undoes `InputKind.name`. -/
theorem ofJson?_kind (kind : InputKind) : InputKind.ofJson? (.string kind.name) = some kind := by
  cases kind <;> rfl

/-- What is gathered for a value of a type. -/
theorem gathered_typeFields {fields : List Field} {javaType : String} {tainted : Bool}
    {categories : List String} (h : Shows fields members)
    (hfields : ∀ field ∈ InputValue.typeFields javaType tainted categories, field ∈ fields) :
    (gathered ["name"] members).required? "java_type" Json.text? = some javaType ∧
    (gathered ["name"] members).withDefault? "tainted" false Json.bool? = some tainted ∧
    (gathered ["name"] members).withDefault? "categories" [] (Json.list? Json.text?) =
      some categories := by
  simp only [InputValue.typeFields, List.forall_mem_cons] at hfields
  obtain ⟨htype, htainted, hcategories, _⟩ := hfields
  have htext : ∀ value, (Json.string value).text? = some value := fun _ => rfl
  have hread : (Json.strings categories).list? Json.text? = some categories :=
    list?_map htext categories
  refine ⟨required?_gathered h htype rfl (by simp), ?_, ?_⟩
  · exact withDefault?_gathered h htainted (by simp) rfl fun hdefault => by simpa using hdefault
  · exact withDefault?_gathered h hcategories (by simp) hread fun hdefault =>
      List.isEmpty_iff.1 hdefault

/-- The members of an input describe its value. -/
theorem value?_gathered {input : Input} (h : Shows input.fields members) :
    (kindOf input.value).value? (gathered ["name"] members) = some input.value := by
  have hfields : ∀ field ∈ input.value.fields, field ∈ input.fields := fun field hfield =>
    List.mem_cons_of_mem _ hfield
  -- By now all members have been read, so it does not matter where the kind stood among them.
  cases hvalue : input.value with
  | object javaType tainted categories =>
    rw [hvalue] at hfields
    obtain ⟨htype, htainted, hcategories⟩ := gathered_typeFields h
      fun field hfield => hfields field (List.mem_cons_of_mem _ hfield)
    simp only [kindOf, InputKind.value?, htype, htainted, hcategories]
    rfl
  | primitive javaType tainted categories =>
    rw [hvalue] at hfields
    obtain ⟨htype, htainted, hcategories⟩ := gathered_typeFields h
      fun field hfield => hfields field (List.mem_cons_of_mem _ hfield)
    simp only [kindOf, InputKind.value?, htype, htainted, hcategories]
    rfl
  | classObject className =>
    rw [hvalue] at hfields
    have hname : (gathered ["name"] members).required? "class_name" Json.text? = some className :=
      required?_gathered h (hfields _ (List.mem_cons_of_mem _ List.mem_cons_self)) rfl (by simp)
    simp only [kindOf, InputKind.value?, hname]
    rfl
  | string value =>
    rw [hvalue] at hfields
    have htext : (gathered ["name"] members).required? "value" Json.text? = some value :=
      required?_gathered h (hfields _ (List.mem_cons_of_mem _ List.mem_cons_self)) rfl (by simp)
    simp only [kindOf, InputKind.value?, htext]
    rfl

/-- **An input is read from every object that describes it.** -/
theorem reads_input {input : Input} {json : Json} (h : Describes input.fields json) :
    Reads Trace.input json input := by
  cases h with
  | @object members h =>
    have hname : slot "name" input.name members = some input.name :=
      slot_of_required input.name h List.mem_cons_self rfl
    have hkind : (gathered ["name"] members).required? "kind" InputKind.ofJson? =
        some (kindOf input.value) :=
      (required?_gathered h (List.mem_cons_of_mem _ (kind_mem_fields input.value)) rfl
        (by simp)).trans (ofJson?_kind _)
    refine (reads_object (builds_input h)).bind fun rest => ?_
    rw [inputDraft]
    dsimp only
    rw [hname, hkind]
    simp only [Option.bind_eq_bind, Option.bind_some, value?_gathered h]
    rfl

/-! ### Calls -/

/-- **Arguments.** Each form of an argument is read back as itself. -/
theorem argument?_toJson (argument : Argument) : argument? argument.toJson = some argument := by
  cases argument with
  | literal value => rw [Argument.toJson, argument?, number?_uint64, Option.map_some]
  | reference name => rfl
  | address value =>
    -- `ref` is looked for first, and is not there.
    have hnone : Gathered.required? [("address", .natural value.toNat)] "ref"
        (fun json => json.text?.map Argument.reference) = none := rfl
    rw [Argument.toJson, argument?, hnone, Option.none_or]
    exact congrArg (Option.map Argument.address) (number?_uint64 value)

/-- An argument is kept as a value first and looked at afterwards. -/
theorem reads_argument (argument : Argument) : Reads Trace.argument argument.toJson argument := by
  refine (reads_value ((kept_argument argument).mono (by decide))).bind fun rest => ?_
  rw [argument?_toJson]
  rfl

/-- The arguments of a call, in their order. -/
theorem reads_args (args : List Argument) :
    Reads (array argument) (.array (args.map Argument.toJson)) args := by
  refine reads_array ?_
  induction args with
  | nil => exact .nil
  | cons first args ih => exact .cons (reads_argument first) ih

/-- The name that a result is bound to, or null. -/
theorem reads_bind (bind : Option String) :
    Reads (optional Reader.text) (Json.ofOption .string bind) bind := by
  cases bind with
  | none => exact reads_optional_null Reader.text
  | some name => exact reads_optional_text name

/-- Each of the three forms of a target is read back under its own name. -/
theorem targetForm_field (target : Target) :
    Gathered.firstForm? [target.field.member] targetForm = some target := by
  cases target with
  | function name => rfl
  | symbol name => rfl
  | slot index =>
    rw [firstForm?_singleton rfl]
    exact congrArg (Option.map Target.slot) (number?_uint64 index)

theorem required_target (target : Target) : target.field.isDefault = false := by
  cases target <;> rfl

/-- No form of a target goes under the name of one of the slots of a call. -/
theorem name_of_target (target : Target) : target.field.name ∉ ["args", "bind"] := by
  cases target <;> simp [Target.field]

/-- What has been read of a call once some of its members have been read. -/
def callDraft (call : RecordedCall) (done : List (String × Json)) : CallDraft where
  args := slot "args" call.args done
  bind := slot "bind" call.bind done
  members := gathered ["args", "bind"] done

/-- The members of a call, one by one. -/
theorem builds_call {call : RecordedCall} (h : Shows call.fields members) :
    Builds recordedCall.member (callDraft call) members := by
  intro done m left hsplit
  obtain ⟨field, hfield, rfl⟩ := h.sound m (by simp [hsplit])
  have hfresh := h.fresh hsplit
  simp only [RecordedCall.fields, List.mem_cons, List.not_mem_nil, or_false] at hfield
  rw [callDraft, callDraft]
  -- The target is gathered; the arguments and the name of the result have slots.
  rcases hfield with rfl | rfl | rfl
  · have hname := name_of_target call.target
    have hargs : call.target.field.name ≠ "args" := fun heq => hname (by simp [heq])
    have hbind : call.target.field.name ≠ "bind" := fun heq => hname (by simp [heq])
    rw [slot_append_of_ne _ hargs.symm, slot_append_of_ne _ hbind.symm, Field.member_fst,
      recordedCall.member.eq_3 _ _ hargs hbind]
    exact (gather_gathered (kept_target call.target) hname).bind fun _ => rfl
  · rw [gathered_append_of_mem (by simp), slot_append_of_ne call.bind (by simp)]
    exact (single_slot (reads_args call.args) hfresh).bind fun _ => rfl
  · rw [gathered_append_of_mem (by simp), slot_append_of_ne call.args (by simp)]
    exact (single_slot (reads_bind call.bind) hfresh).bind fun _ => rfl

/-- **A call is read from every object that describes it.** -/
theorem reads_call {call : RecordedCall} {json : Json} (h : Describes call.fields json) :
    Reads recordedCall json call := by
  cases h with
  | @object members h =>
    have hmem : ∀ field ∈ [call.target.field, _, _], field ∈ call.fields := fun _ hfield => hfield
    rw [List.forall_mem_cons, List.forall_mem_cons, List.forall_mem_singleton] at hmem
    have hargs : (slot "args" call.args members).getD [] = call.args :=
      getD_slot h hmem.2.1 List.isEmpty_iff.1
    have hbind : (slot "bind" call.bind members).getD none = call.bind :=
      getD_slot h hmem.2.2 Option.isNone_iff_eq_none.1
    have htarget : gathered ["args", "bind"] members = [call.target.field.member] := by
      refine gathered_eq_singleton h hmem.1 (required_target _) (name_of_target _)
        fun other hother hslots => ?_
      simp only [RecordedCall.fields, List.mem_cons, List.not_mem_nil, or_false] at hother
      rcases hother with rfl | rfl | rfl
      · rfl
      · simp at hslots
      · simp at hslots
    refine (reads_object (builds_call h)).bind fun rest => ?_
    rw [callDraft]
    dsimp only
    rw [hargs, hbind, htarget, targetForm_field]
    rfl

/-! ### Documents that are read -/

/-- What has been read of a trace once some members of its document have been read. -/
def draft (trace : Trace) (done : List (String × Json)) : Draft where
  pointerBits := slot "pointer_bits" trace.pointerBits done
  memory := slot "memory" trace.memory done
  inputs := slot "inputs" trace.inputs done
  calls := slot "calls" trace.calls done

variable {trace : Trace} {memory inputs calls : List Json}

/-- The regions of a document, read as an array. -/
theorem Parts.reads_memory (h : trace.Parts memory inputs calls) :
    Reads (array Trace.region) (.array memory) trace.memory :=
  reads_array (h.memory.flip.imp fun _ _ => reads_region)

/-- Its inputs. -/
theorem Parts.reads_inputs (h : trace.Parts memory inputs calls) :
    Reads (array Trace.input) (.array inputs) trace.inputs :=
  reads_array (h.inputs.flip.imp fun _ _ => reads_input)

/-- Its calls. -/
theorem Parts.reads_calls (h : trace.Parts memory inputs calls) :
    Reads (array recordedCall) (.array calls) trace.calls :=
  reads_array (h.calls.flip.imp fun _ _ => reads_call)

/-- The members of a document, one by one. -/
theorem builds_document (hparts : trace.Parts memory inputs calls)
    (h : Shows (trace.fields memory inputs calls) members) :
    Builds documentMember trace.draft members := by
  intro done m left hsplit
  obtain ⟨field, hfield, rfl⟩ := h.sound m (by simp [hsplit])
  have hfresh := h.fresh hsplit
  simp only [fields, List.mem_cons, List.not_mem_nil, or_false] at hfield
  rw [draft, draft]
  -- Every member fills its own slot and leaves the other three as they are.
  rcases hfield with rfl | rfl | rfl | rfl
  · rw [slot_append_of_ne trace.memory (by simp), slot_append_of_ne trace.inputs (by simp),
      slot_append_of_ne trace.calls (by simp)]
    exact (single_slot (reads_word32 trace.pointerBits) hfresh).bind fun _ => rfl
  · rw [slot_append_of_ne trace.pointerBits (by simp), slot_append_of_ne trace.inputs (by simp),
      slot_append_of_ne trace.calls (by simp)]
    exact (single_slot hparts.reads_memory hfresh).bind fun _ => rfl
  · rw [slot_append_of_ne trace.pointerBits (by simp), slot_append_of_ne trace.memory (by simp),
      slot_append_of_ne trace.calls (by simp)]
    exact (single_slot hparts.reads_inputs hfresh).bind fun _ => rfl
  · rw [slot_append_of_ne trace.pointerBits (by simp), slot_append_of_ne trace.memory (by simp),
      slot_append_of_ne trace.inputs (by simp)]
    exact (single_slot hparts.reads_calls hfresh).bind fun _ => rfl

/-- In the end every part is there or has its default. -/
theorem finish_draft (h : Shows (trace.fields memory inputs calls) members) :
    (trace.draft members).finish = trace := by
  have hmem : ∀ field ∈ [_, _, _, _], field ∈ trace.fields memory inputs calls :=
    fun _ hfield => hfield
  simp only [List.forall_mem_cons] at hmem
  obtain ⟨hbits, hmemory, hinputs, hcalls, _⟩ := hmem
  have hbits : (slot "pointer_bits" trace.pointerBits members).getD 64 = trace.pointerBits :=
    getD_slot h hbits eq_of_beq
  have hmemory : (slot "memory" trace.memory members).getD [] = trace.memory :=
    getD_slot h hmemory List.isEmpty_iff.1
  have hinputs : (slot "inputs" trace.inputs members).getD [] = trace.inputs :=
    getD_slot h hinputs List.isEmpty_iff.1
  have hcalls : (slot "calls" trace.calls members).getD [] = trace.calls :=
    getD_slot h hcalls List.isEmpty_iff.1
  simp only [Draft.finish, draft, hbits, hmemory, hinputs, hcalls]

/-- White space may stand in front of the bracket that ends a document. -/
theorem endOfItems_of_blank {blanks : List Char} (h : Blank blanks) (rest : List Char) :
    endOfItems (blanks ++ ']' :: rest) = .ok ((), rest) := by
  rw [endOfItems, bind_of_ok (token?_of_blank h (by decide) rest)]
  rfl

/-- The part of an array that an item is. -/
theorem within_item {reader : Reader α} {json : Json} {a : α} {text after : List Char}
    {jsons : List Json} (position : Nat) (h : Reads reader json a) (hspelled : Spelled json text)
    (hlisted : Listed Spelled ']' jsons after) (rest : List Char) :
    within (.index position) reader (text ++ (after ++ rest)) = .ok (a, after ++ rest) :=
  within_of_ok (h [] text _ Json.blank_nil hspelled (separated_of_listed hlisted (by decide) rest))

/-- The four items of an array, whatever stands behind it. -/
theorem documentItems_of_enclosed {text : List Char} (hparts : trace.Parts memory inputs calls)
    (h : Enclosed Spelled ']'
      [.natural trace.pointerBits.toNat, .array memory, .array inputs, .array calls] text)
    (rest : List Char) :
    documentItems (text ++ rest) = .ok (⟨some trace.pointerBits, some trace.memory,
      some trace.inputs, some trace.calls⟩, rest) := by
  -- An item is followed by the rest of the list, which is no part of it.
  cases h with
  | parts hblanks hbits hfirst =>
    have hread₀ := within_item 0 (reads_word32 trace.pointerBits) hbits hfirst rest
    cases hfirst with
    | next hbefore₁ hbehind₁ hmemory hsecond =>
      have hread₁ := within_item 1 hparts.reads_memory hmemory hsecond rest
      cases hsecond with
      | next hbefore₂ hbehind₂ hinputs hthird =>
        have hread₂ := within_item 2 hparts.reads_inputs hinputs hthird rest
        cases hthird with
        | next hbefore₃ hbehind₃ hcalls hfourth =>
          have hread₃ := within_item 3 hparts.reads_calls hcalls hfourth rest
          cases hfourth with
          | close hend =>
            simp only [List.append_assoc, List.cons_append, List.nil_append]
              at hread₀ hread₁ hread₂ hread₃ ⊢
            rw [documentItems, bind_of_ok (nextItem_first hblanks hbits _)]
            dsimp only
            rw [if_pos rfl, bind_of_ok hread₀,
              bind_of_ok (nextItem_next hbefore₁ hbehind₁ hmemory _), if_pos rfl, bind_of_ok hread₁,
              bind_of_ok (nextItem_next hbefore₂ hbehind₂ hinputs _), if_pos rfl, bind_of_ok hread₂,
              bind_of_ok (nextItem_next hbefore₃ hbehind₃ hcalls _), if_pos rfl, bind_of_ok hread₃,
              bind_of_ok (endOfItems_of_blank hend rest)]
            rfl

/-- **A document is read as the trace it describes,** whatever stands behind it. -/
theorem document_of_spelled {json : Json} {blanks text : List Char} (h : trace.Document json)
    (hblanks : Blank blanks) (hspelled : Spelled json text) (rest : List Char) :
    document (blanks ++ (text ++ rest)) = .ok (trace, rest) := by
  cases h with
  | object hparts hmembers =>
    cases hspelled with
    | object henclosed =>
      have hobject :=
        object_of_enclosed Json.blank_nil (builds_document hparts hmembers) henclosed rest
      rw [document, List.cons_append, bind_of_ok (token?_of_blank hblanks (by decide) _)]
      refine (bind_of_ok hobject).trans ?_
      rw [finish_draft hmembers]
      rfl
  | array hparts =>
    cases hspelled with
    | array henclosed =>
      rw [document, List.cons_append, bind_of_ok (token?_of_blank hblanks (by decide) _)]
      -- The bracket has been looked at and not yet been read.
      change (advance >>= fun _ => documentItems >>= _) _ = _
      rw [bind_of_ok (advance_cons _ _)]
      exact bind_of_ok (documentItems_of_enclosed hparts henclosed rest)

/-- **Documents denote traces.** Every trace has a document. Every document has a text: what is
written of it is one, in every layout. And whatever text of whatever document of a trace is taken,
it is read as this trace, with white space in front of it and anything at all behind it. -/
theorem ofText_document (trace : Trace) :
    trace.Document trace.toJson ∧
    ∀ json, trace.Document json →
      (∀ layout, Spelled json (json.write layout "").toList) ∧
      ∀ before text rest : String, Blank before.toList → Spelled json text.toList →
        ofText (before ++ text ++ rest) = .ok trace := by
  refine ⟨document_toJson trace, fun json h => ⟨fun layout => ?_, ?_⟩⟩
  · obtain ⟨spelling, hspelled, hwrite⟩ := Json.appends_of_kept h.kept layout ""
    rw [hwrite]
    exact hspelled
  · intro before text rest hbefore hspelled
    rw [ofText, String.toList_append, String.toList_append, List.append_assoc,
      document_of_spelled h hbefore hspelled]
    rfl

/-- A trace with parts of several kinds. -/
def mixedTrace : Trace where
  pointerBits := 32
  memory := [⟨0x1000, .text "\"\\\n\u2603"⟩, ⟨0x2000, .words [0xFFFFFFFFFFFFFFFF]⟩]
  inputs := [⟨"box", .object "Box" true ["location"]⟩, ⟨"class", .classObject "Box"⟩]
  calls := [⟨.slot 6, [.literal 0, .reference "box", .address 0x1000], some "copy"⟩,
    { target := .function "GetVersion" }]

/-- Its regions, with the members of every object out of order. -/
def mixedMemory : List Json :=
  [.object [("utf8", .string "\"\\\n\u2603"), ("address", .natural 0x1000)],
    .object [("words", .array [.natural 0xFFFFFFFFFFFFFFFF]), ("address", .natural 0x2000)]]

/-- Its inputs. -/
def mixedInputs : List Json :=
  [.object [("tainted", .bool true), ("java_type", .string "Box"), ("kind", .string "object"),
      ("name", .string "box"), ("categories", .array [.string "location"])],
    .object [("class_name", .string "Box"), ("name", .string "class"), ("kind", .string "class")]]

/-- Its calls; what has its default is left out. -/
def mixedCalls : List Json :=
  [.object [("bind", .string "copy"),
      ("args", .array [.natural 0, .object [("ref", .string "box")],
        .object [("address", .natural 0x1000)]]),
      ("slot", .natural 6)],
    .object [("function", .string "GetVersion")]]

/-- A document of it. -/
def mixedDocument : Json :=
  .object [("calls", .array mixedCalls), ("inputs", .array mixedInputs),
    ("pointer_bits", .natural 32), ("memory", .array mixedMemory)]

theorem parts_mixed : mixedTrace.Parts mixedMemory mixedInputs mixedCalls where
  memory := by
    refine .cons (.object ⟨?_, ?_, ?_⟩) (.cons (.object ⟨?_, ?_, ?_⟩) .nil)
    all_goals simp [Region.fields, RegionContents.field, Field.member]
  inputs := by
    refine .cons (.object ⟨?_, ?_, ?_⟩) (.cons (.object ⟨?_, ?_, ?_⟩) .nil)
    all_goals
      simp [Input.fields, InputValue.fields, InputValue.typeFields, Field.member, Json.strings]
  calls := by
    refine .cons (.object ⟨?_, ?_, ?_⟩) (.cons (.object ⟨?_, ?_, ?_⟩) .nil)
    all_goals simp [RecordedCall.fields, Target.field, Argument.toJson, Field.member, Json.ofOption]

/-- `mixedDocument` describes `mixedTrace`, with its members out of order and defaults left out. -/
theorem document_mixed : mixedTrace.Document mixedDocument := by
  refine .object parts_mixed ⟨?_, ?_, ?_⟩
  all_goals simp [fields, mixedTrace, Field.member]

/-- A text of `mixedDocument` is read as `mixedTrace`, with a line break in front of it and
something else behind it. -/
theorem ofText_document_mixed :
    mixedTrace.Document mixedDocument ∧
    ofText ("\n" ++ mixedDocument.pretty ++ "\x7d and more") = .ok mixedTrace := by
  refine ⟨document_mixed, ?_⟩
  obtain ⟨hspelled, hread⟩ := (ofText_document mixedTrace).2 mixedDocument document_mixed
  exact hread "\n" mixedDocument.pretty "\x7d and more" (by simp [Blank]) (hspelled (some 0))

end Trace

end NativeFlow
