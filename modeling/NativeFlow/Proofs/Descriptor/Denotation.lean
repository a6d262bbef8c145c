import NativeFlow.Call.Field
import NativeFlow.Proofs.Descriptor.Reading

namespace NativeFlow

/-!
# What descriptors denote

A descriptor is looked at twice: it is read from the left for the kind of its type, and the name of
the type is the text behind the last parenthesis. The spelling of a descriptor is taken for what it
denotes. Other texts are accepted too where the two do not meet: the name of an array type and what
comes with `void` are not compared with what was read.

* `TypeDescriptor.javaType`: the Java type that a type descriptor denotes.
* `JavaType.Named`: the Java type that comes of a type that was read and a text that names it.
* `MethodSignature.ofText_eq_ok_iff`, `JavaType.ofText_eq_ok_iff`: all texts that are accepted.
* `MethodSignature.Spelled`, `JavaType.Spelled`: what a text is the spelling of.
* `Descriptor.accepted_iff_spelled`: which of the accepted texts are such spellings.
* `Descriptor.render_accepted`: every spelling is accepted as what it denotes, and fields of
  different types are in different rows.
-/

/-! ### Denotation -/

/-- The kind of the values of a class. -/
def Kind.ofClass (name : List Char) : Kind :=
  if name = stringClass.toList then .string
  else if name.head? = some '[' then .array
  else .object

/-- No class is of the kind of `void`. -/
theorem Kind.ofClass_ne_void (name : List Char) : ofClass name ≠ .void := by
  unfold ofClass
  split
  · simp
  · split <;> simp

/-- The type of a class has the kind of `Kind.ofClass` and the name of the class. -/
theorem JavaType.ofClassName_eq (name : List Char) :
    ofClassName name = ⟨Kind.ofClass name, String.ofList name⟩ := by
  have hstring : String.ofList name = stringClass ↔ name = stringClass.toList := by
    rw [← String.toList_inj, String.toList_ofList]
  simp only [ofClassName, Kind.ofClass, hstring]
  split
  · rfl
  · split <;> rfl

namespace TypeDescriptor

/-- The type of nothing. -/
def void : TypeDescriptor := { base := .void }

/-- The Java type that a descriptor denotes. An array type goes by its descriptor. -/
def javaType (t : TypeDescriptor) : JavaType :=
  if t.dimensions = 0 then
    match t.base with
    | .void => ⟨.void, "void"⟩
    | .primitive type => ⟨.primitive type, type.keyword⟩
    | .reference className => ⟨Kind.ofClass className, String.ofList className⟩
  else ⟨.array, String.ofList t.render⟩

end TypeDescriptor

/-! ### Names -/

namespace JavaType

/-- The Java type that comes of a type that was read and a text that names it. The text counts for
all but `void`, and for an array it can be any text. -/
inductive Named : TypeDescriptor → List Char → JavaType → Prop
  | void (text : List Char) : Named .void text ⟨.void, "void"⟩
  | primitive (type named : Primitive) :
    Named { base := .primitive type } [named.letter] ⟨.primitive named, named.keyword⟩
  | reference (className name : List Char) :
    Named { base := .reference className } ('L' :: name ++ [';'])
      ⟨Kind.ofClass name, String.ofList name⟩
  | array {dimensions : Nat} (h : dimensions ≠ 0) (base : BaseType) (text : List Char) :
    Named ⟨dimensions, base⟩ text ⟨.array, String.ofList text⟩

/-- The class between `L` and a semicolon at the very end of a text. -/
theorem classOfSpelling?_eq_some_iff {text name : List Char} :
    classOfSpelling? text = some name ↔ text = 'L' :: name ++ [';'] := by
  constructor
  · intro h
    unfold classOfSpelling? at h
    split at h
    case h_1 rest =>
      split at h
      case isTrue hlast =>
        cases h
        rw [List.cons_append, List.dropLast_append_getLast? _ hlast]
      case isFalse => cases h
    case h_2 => cases h
  · rintro rfl
    simp [classOfSpelling?]

variable {t : TypeDescriptor} {text : List Char} {type : JavaType}

/-- `Named` says what `ofSpelling` makes of a type and a text. -/
theorem ofSpelling_eq_ok_iff : ofSpelling t text = .ok type ↔ Named t text type := by
  constructor
  · intro h
    obtain ⟨dimensions, base⟩ := t
    unfold ofSpelling at h
    dsimp only at h
    -- Dimensions come first; without any, the base says what the text has to look like.
    split at h
    case isTrue hzero =>
      subst hzero
      split at h
      case h_1 => cases h; exact .void text
      case h_2 read =>
        split at h
        case h_1 c =>
          split at h
          case h_1 named hletter =>
            cases h
            rw [← Primitive.letter_of_ofLetter? hletter]
            exact .primitive read named
          case h_2 => cases h
        case h_2 => cases h
      case h_3 className =>
        split at h
        case h_1 name hname =>
          cases h
          rw [classOfSpelling?_eq_some_iff.1 hname, ofClassName_eq]
          exact .reference className name
        case h_2 => cases h
    case isFalse hdimensions =>
      cases h
      exact .array hdimensions base text
  · intro h
    cases h with
    | void text => rfl
    | primitive read named => simp [ofSpelling]
    | reference className name =>
      simp [ofSpelling, classOfSpelling?_eq_some_iff.2, ofClassName_eq]
    | array hdimensions base text => simp [ofSpelling, hdimensions]

/-- The spelling of a type names what the type denotes. -/
theorem named_render (t : TypeDescriptor) : Named t t.render t.javaType := by
  obtain ⟨dimensions, base⟩ := t
  by_cases hzero : dimensions = 0
  · subst hzero
    cases base with
    | void => exact .void _
    | primitive type => exact .primitive type type
    | reference className => exact .reference className className
  · have hdenotes : TypeDescriptor.javaType ⟨dimensions, base⟩ =
        ⟨.array, String.ofList (TypeDescriptor.render ⟨dimensions, base⟩)⟩ := if_neg hzero
    rw [hdenotes]
    exact .array hzero base _

/-- There is one Java type at most. -/
theorem Named.unique {type' : JavaType} (h : Named t text type) (h' : Named t text type') :
    type = type' :=
  Except.ok.inj ((ofSpelling_eq_ok_iff.2 h).symm.trans (ofSpelling_eq_ok_iff.2 h'))

/-- Only its spelling names what a type denotes, `void` apart. -/
theorem Named.eq_render (h : Named t text t.javaType) (hvoid : t ≠ .void) : text = t.render := by
  generalize htype : t.javaType = type at h
  cases h with
  | void => exact absurd rfl hvoid
  -- The letter is that of the type, since both have the same kind.
  | primitive read named =>
    obtain ⟨hkind, -⟩ := JavaType.mk.inj htype
    cases hkind
    rfl
  | reference className name =>
    obtain ⟨-, hname⟩ := JavaType.mk.inj htype
    rw [String.ofList_injective hname]
    rfl
  | array hdimensions base text =>
    rw [TypeDescriptor.javaType, if_neg hdimensions] at htype
    obtain ⟨-, hname⟩ := JavaType.mk.inj htype
    exact (String.ofList_injective hname).symm

/-- Nothing but `void` is taken for `void`. -/
theorem Named.kind_eq_void_iff (h : Named t text type) : type.kind = .void ↔ t = .void := by
  cases h with
  | void => simp
  | primitive => simp [TypeDescriptor.void]
  | reference className name => simp [TypeDescriptor.void, Kind.ofClass_ne_void]
  | array hdimensions => simp [TypeDescriptor.void, hdimensions]

end JavaType

/-! ### Accepted texts -/

namespace MethodSignature

variable {descriptor : String} {signature : MethodSignature}

/-- What is behind a parenthesis is behind the last one if there is no other in it. -/
theorem behindParameters_append (front : List Char) {tail : List Char} (h : ')' ∉ tail) :
    behindParameters (front ++ ')' :: tail) = tail := by
  have htail : ∀ c ∈ tail.reverse, decide (c ≠ ')') = true := by
    intro c hmem
    exact decide_eq_true fun heq => h (heq ▸ List.mem_reverse.1 hmem)
  rw [behindParameters, List.reverse_append, List.reverse_cons, List.append_assoc,
    List.takeWhile_append_of_pos htail, List.singleton_append,
    List.takeWhile_cons_of_neg (by simp), List.append_nil, List.reverse_reverse]

/-- There is no parenthesis behind the last one. -/
theorem not_mem_behindParameters (text : List Char) : ')' ∉ behindParameters text := by
  intro hmem
  simpa using List.mem_takeWhile_imp (List.mem_reverse.1 hmem)

/-- **The texts that are accepted for a method:** a method descriptor is at the front of the text,
and what is behind the last parenthesis names the return type. -/
theorem ofText_eq_ok_iff :
    ofText descriptor = .ok signature ↔
      ∃ m : MethodDescriptor, m.Readable ∧ (∃ rest, descriptor.toList = m.render ++ rest) ∧
        signature.argumentCount = m.parameters.length ∧
        JavaType.Named m.returns (behindParameters descriptor.toList) signature.returns := by
  constructor
  · intro h
    unfold ofText at h
    dsimp only at h
    split at h
    case h_1 => cases h
    case h_2 m hread =>
      obtain ⟨hreadable, hfront⟩ := MethodDescriptor.read_eq_ok_iff.1 hread
      split at h
      case h_1 => cases h
      case h_2 returns hreturns =>
        cases h
        exact ⟨m, hreadable, hfront, rfl, JavaType.ofSpelling_eq_ok_iff.1 hreturns⟩
  · rintro ⟨m, hreadable, hfront, hcount, hnamed⟩
    simp only [ofText, MethodDescriptor.read_eq_ok_iff.2 ⟨hreadable, hfront⟩,
      JavaType.ofSpelling_eq_ok_iff.2 hnamed, ← hcount]

/-- A text spells a signature: the text is the spelling of a method descriptor and nothing else, and
the signature is what it denotes. Void parameters and arrays of void count as types, as they do for
`TypeDescriptor.Readable`: `(V[V)V` spells a signature with two parameters. -/
def Spelled (signature : MethodSignature) (text : List Char) : Prop :=
  ∃ m : MethodDescriptor, m.Readable ∧ text = m.render ∧
    signature.argumentCount = m.parameters.length ∧ signature.returns = m.returns.javaType

/-- The spelling of a method ends in that of its return type. -/
theorem behindParameters_render {m : MethodDescriptor} (h : ')' ∉ m.returns.render) :
    behindParameters m.render = m.returns.render :=
  behindParameters_append ('(' :: m.parameters.flatMap TypeDescriptor.render) h

/-- **An accepted text spells the signature** exactly if nothing is left over and no parenthesis is
in the return type. -/
theorem spelled_iff {m : MethodDescriptor} {rest : List Char}
    (h : ofText descriptor = .ok signature) (hreadable : m.Readable)
    (hfront : descriptor.toList = m.render ++ rest) :
    signature.Spelled descriptor.toList ↔ rest = [] ∧ ')' ∉ m.returns.render := by
  obtain ⟨read, hread, ⟨rest', hrest⟩, hcount, hnamed⟩ := ofText_eq_ok_iff.1 h
  -- The descriptor that was read is the one at the front of the text, as there is only one.
  obtain rfl := MethodDescriptor.unique_of_append_eq hreadable hread (hfront.symm.trans hrest)
  constructor
  · rintro ⟨spelled, hspelled, htext, -, hreturns⟩
    have hsame : m.render ++ rest = spelled.render ++ [] := by
      rw [← hfront, htext, List.append_nil]
    obtain rfl := MethodDescriptor.unique_of_append_eq hreadable hspelled hsame
    refine ⟨List.append_cancel_left hsame, fun hparenthesis => ?_⟩
    -- The name of the return type would have to be all of its spelling.
    have hvoid : m.returns ≠ .void := by
      intro heq
      rw [heq] at hparenthesis
      exact absurd hparenthesis (by decide)
    rw [hreturns] at hnamed
    rw [← hnamed.eq_render hvoid] at hparenthesis
    exact not_mem_behindParameters _ hparenthesis
  · rintro ⟨rfl, hparenthesis⟩
    rw [List.append_nil] at hfront
    rw [hfront, behindParameters_render hparenthesis] at hnamed
    exact ⟨m, hreadable, hfront, hcount, hnamed.unique (JavaType.named_render m.returns)⟩

end MethodSignature

namespace JavaType

variable {descriptor : String} {type : JavaType}

/-- The descriptor of a field is the return type of a method without parameters. -/
theorem read_field_iff {text : List Char} {m : MethodDescriptor} :
    MethodDescriptor.read ('(' :: ')' :: text) = .ok m ↔
      ∃ t : TypeDescriptor, m = ⟨[], t⟩ ∧ t.Readable ∧ ∃ rest, text = t.render ++ rest := by
  have hnone : MethodDescriptor.readParameters (')' :: text) = .ok ([], text) :=
    MethodDescriptor.readParameters_eq_ok_iff.2 ⟨by simp, rfl⟩
  simp only [MethodDescriptor.read, hnone]
  constructor
  · intro h
    split at h
    case h_1 => cases h
    case h_2 => cases h
    case h_3 t rest hread =>
      cases h
      obtain ⟨hreadable, htext⟩ := TypeDescriptor.read_eq_some_iff.1 hread
      exact ⟨t, rfl, hreadable, rest, htext⟩
  · rintro ⟨t, rfl, hreadable, rest, rfl⟩
    rw [TypeDescriptor.read_render hreadable]

/-- **The texts that are accepted for a field:** a type other than `void` is at the front of the
text, and the whole text names it. -/
theorem ofText_eq_ok_iff :
    ofText descriptor = .ok type ↔
      ∃ t : TypeDescriptor, t.Readable ∧ t ≠ .void ∧
        (∃ rest, descriptor.toList = t.render ++ rest) ∧ Named t descriptor.toList type := by
  constructor
  · intro h
    unfold ofText at h
    dsimp only at h
    split at h
    case h_1 => cases h
    case h_2 m hread =>
      obtain ⟨t, rfl, hreadable, hfront⟩ := read_field_iff.1 hread
      split at h
      case h_1 => cases h
      case h_2 named hnamed =>
        have hnamed := ofSpelling_eq_ok_iff.1 hnamed
        split at h
        case isTrue => cases h
        case isFalse hkind =>
          cases h
          exact ⟨t, hreadable, fun hvoid => hkind (hnamed.kind_eq_void_iff.2 hvoid), hfront, hnamed⟩
  · rintro ⟨t, hreadable, hvoid, hfront, hnamed⟩
    have hkind : type.kind ≠ .void := fun hkind => hvoid (hnamed.kind_eq_void_iff.1 hkind)
    simp only [ofText, read_field_iff.2 ⟨t, rfl, hreadable, hfront⟩,
      ofSpelling_eq_ok_iff.2 hnamed, if_neg hkind]

/-- A text spells the type of a field: the text is the spelling of a descriptor other than that of
`void` and nothing else, and the type is what it denotes. Arrays of void count as types. -/
def Spelled (type : JavaType) (text : List Char) : Prop :=
  ∃ t : TypeDescriptor, t.Readable ∧ t ≠ .void ∧ text = t.render ∧ type = t.javaType

/-- **An accepted text spells the type of a field** exactly if nothing is left over. -/
theorem spelled_iff {t : TypeDescriptor} {rest : List Char} (h : ofText descriptor = .ok type)
    (hreadable : t.Readable) (hfront : descriptor.toList = t.render ++ rest) :
    type.Spelled descriptor.toList ↔ rest = [] := by
  obtain ⟨read, hread, hvoid, ⟨rest', hrest⟩, hnamed⟩ := ofText_eq_ok_iff.1 h
  obtain rfl := TypeDescriptor.unique_of_append_eq hreadable hread (hfront.symm.trans hrest)
  constructor
  · rintro ⟨spelled, hspelled, -, htext, -⟩
    have hsame : t.render ++ rest = spelled.render ++ [] := by
      rw [← hfront, htext, List.append_nil]
    obtain rfl := TypeDescriptor.unique_of_append_eq hreadable hspelled hsame
    exact List.append_cancel_left hsame
  · rintro rfl
    rw [List.append_nil] at hfront
    rw [hfront] at hnamed
    exact ⟨t, hreadable, hvoid, hfront, hnamed.unique (named_render t)⟩

end JavaType

/-! ### Rows of fields -/

namespace TypeDescriptor

variable {t t' : TypeDescriptor}

/-- A parenthesis in a spelling is in a class name. -/
theorem parenthesis_not_mem_render
    (h : ∀ className, t.base = .reference className → ')' ∉ className) : ')' ∉ t.render := by
  have hdimensions : ')' ∉ List.replicate t.dimensions '[' := by simp
  have hbase : ')' ∉ t.base.render := by
    cases hcase : t.base with
    | void => decide
    | primitive type => cases type <;> decide
    | reference className => simpa [BaseType.render] using h className hcase
  simpa [render] using hbase

/-- A class has a name of its own: not that of an array type or of a primitive type. -/
def HasOwnName (t : TypeDescriptor) : Prop :=
  ∀ className, t = { base := .reference className } →
    className.head? ≠ some '[' ∧ ∀ p : Primitive, String.ofList className ≠ p.keyword

/-- The descriptor of a type with a given name. -/
def spellingOfName (name : String) : List Char :=
  match Primitive.ofKeyword? name with
  | some type => [type.letter]
  | none => if name.toList.head? = some '[' then name.toList else 'L' :: name.toList ++ [';']

/-- A name that is no keyword is not that of a primitive type. -/
theorem ofKeyword?_eq_none {name : String} (h : ∀ p : Primitive, name ≠ p.keyword) :
    Primitive.ofKeyword? name = none := by
  refine List.find?_eq_none.2 fun p _ hkeyword => ?_
  exact h p (of_decide_eq_true hkeyword).symm

/-- The descriptor of a type can be got back from the name of the type. -/
theorem spellingOfName_name (hvoid : t ≠ .void) (hname : t.HasOwnName) :
    spellingOfName t.javaType.name = t.render := by
  obtain ⟨dimensions, base⟩ := t
  cases dimensions with
  | zero =>
    cases base with
    | void => exact absurd rfl hvoid
    | primitive type => cases type <;> rfl
    | reference className =>
      obtain ⟨hbracket, hkeyword⟩ := hname className rfl
      change spellingOfName (String.ofList className) = 'L' :: className ++ [';']
      rw [spellingOfName, ofKeyword?_eq_none hkeyword]
      simp only [String.toList_ofList, if_neg hbracket]
  | succ dimensions =>
    have hbracket : (TypeDescriptor.render ⟨dimensions + 1, base⟩).head? = some '[' := rfl
    change spellingOfName (String.ofList (TypeDescriptor.render ⟨dimensions + 1, base⟩)) = _
    -- No keyword starts with a bracket.
    have hkeyword (p : Primitive) :
        String.ofList (TypeDescriptor.render ⟨dimensions + 1, base⟩) ≠ p.keyword := by
      intro heq
      rw [← String.toList_inj, String.toList_ofList] at heq
      rw [heq] at hbracket
      cases p <;> exact absurd hbracket (by decide)
    rw [spellingOfName, ofKeyword?_eq_none hkeyword]
    simp only [String.toList_ofList, if_pos hbracket]

/-- **Different types have different names.** -/
theorem name_ne_name (h : t.Readable) (h' : t'.Readable) (hvoid : t ≠ .void) (hvoid' : t' ≠ .void)
    (hname : t.HasOwnName) (hname' : t'.HasOwnName) (hne : t ≠ t') :
    t.javaType.name ≠ t'.javaType.name := by
  intro heq
  have hrender : t.render ++ [] = t'.render ++ [] := by
    rw [← spellingOfName_name hvoid hname, heq, spellingOfName_name hvoid' hname']
  exact hne (unique_of_append_eq h h' hrender)

end TypeDescriptor

/-- Reading a field leaves all other rows as they are. -/
theorem FieldTable.get?_of_read {table table' : FieldTable Note} {name : String} {type : JavaType}
    {source : Provenance} {taint : Taint} {value : Note} {key : FieldKey}
    (h : table.read name type source taint = some (value, table'))
    (hne : fieldKey name type ≠ key) : table'.get? key = table.get? key := by
  unfold read at h
  split at h
  case h_1 => cases h; rfl
  case h_2 =>
    obtain ⟨fresh, -, heq⟩ := Option.map_eq_some_iff.1 h
    cases heq
    rw [get?_set, if_neg hne]

/-! ### Main results -/

namespace Descriptor

open MethodSignature (behindParameters)

/-- **Accepted descriptors, and which of them are read in full.**

A text is accepted for a method exactly if a method descriptor is at its front and what stands
behind the last parenthesis names the return type. It is the spelling of that descriptor, and the
return type is what the descriptor denotes, exactly if nothing is left over and there is no
parenthesis in the return type.

A text is accepted for a field exactly if a type other than `void` is at its front and the text
names it. It is the spelling of that type, and the type of the field is what the descriptor denotes,
exactly if nothing is left over. -/
theorem accepted_iff_spelled (descriptor : String) :
    (∀ signature : MethodSignature, MethodSignature.ofText descriptor = .ok signature ↔
      ∃ m : MethodDescriptor, m.Readable ∧ (∃ rest, descriptor.toList = m.render ++ rest) ∧
        signature.argumentCount = m.parameters.length ∧
        JavaType.Named m.returns (behindParameters descriptor.toList) signature.returns) ∧
    (∀ (signature : MethodSignature) (m : MethodDescriptor) (rest : List Char),
      MethodSignature.ofText descriptor = .ok signature → m.Readable →
      descriptor.toList = m.render ++ rest →
        (signature.Spelled descriptor.toList ↔ rest = [] ∧ ')' ∉ m.returns.render)) ∧
    (∀ type : JavaType, JavaType.ofText descriptor = .ok type ↔
      ∃ t : TypeDescriptor, t.Readable ∧ t ≠ .void ∧
        (∃ rest, descriptor.toList = t.render ++ rest) ∧
        JavaType.Named t descriptor.toList type) ∧
    ∀ (type : JavaType) (t : TypeDescriptor) (rest : List Char),
      JavaType.ofText descriptor = .ok type → t.Readable → descriptor.toList = t.render ++ rest →
        (type.Spelled descriptor.toList ↔ rest = []) :=
  ⟨fun _ => MethodSignature.ofText_eq_ok_iff,
    fun _ _ _ h hreadable hfront => MethodSignature.spelled_iff h hreadable hfront,
    fun _ => JavaType.ofText_eq_ok_iff,
    fun _ _ _ h hreadable hfront => JavaType.spelled_iff h hreadable hfront⟩

/-- A parenthesis in the class of a parameter does no harm. -/
theorem accepted_iff_spelled_parameter :
    MethodSignature.ofText "(La)b;I)V" = .ok ⟨2, ⟨.void, "void"⟩⟩ ∧
      MethodSignature.Spelled ⟨2, ⟨.void, "void"⟩⟩ "(La)b;I)V".toList := by
  have haccepted : MethodSignature.ofText "(La)b;I)V" = .ok ⟨2, ⟨.void, "void"⟩⟩ := rfl
  have hexact := (accepted_iff_spelled "(La)b;I)V").2.1 ⟨2, ⟨.void, "void"⟩⟩
    ⟨[{ base := .reference "a)b".toList }, { base := .primitive .int }], .void⟩ [] haccepted
    (by decide) (by decide)
  exact ⟨haccepted, hexact.2 ⟨rfl, by decide⟩⟩

/-- Text behind `void` or behind an array type is accepted, and so is a return type with a
parenthesis, of which only a part is taken for the name. -/
theorem accepted_not_spelled :
    (MethodSignature.ofText "()Vx" = .ok ⟨0, ⟨.void, "void"⟩⟩ ∧
      ¬ MethodSignature.Spelled ⟨0, ⟨.void, "void"⟩⟩ "()Vx".toList) ∧
    (MethodSignature.ofText "()La)Lb;" = .ok ⟨0, ⟨.object, "b"⟩⟩ ∧
      ¬ MethodSignature.Spelled ⟨0, ⟨.object, "b"⟩⟩ "()La)Lb;".toList) ∧
    (JavaType.ofText "[Ix" = .ok ⟨.array, "[Ix"⟩ ∧
      ¬ JavaType.Spelled ⟨.array, "[Ix"⟩ "[Ix".toList) := by
  have hvoid : MethodSignature.ofText "()Vx" = .ok ⟨0, ⟨.void, "void"⟩⟩ := rfl
  have hclass : MethodSignature.ofText "()La)Lb;" = .ok ⟨0, ⟨.object, "b"⟩⟩ := rfl
  have harray : JavaType.ofText "[Ix" = .ok ⟨.array, "[Ix"⟩ := rfl
  have hvoidFront : "()Vx".toList = MethodDescriptor.render ⟨[], .void⟩ ++ ['x'] := by decide
  have hclassFront : "()La)Lb;".toList =
      MethodDescriptor.render ⟨[], { base := .reference "a)Lb".toList }⟩ ++ [] := by decide
  have harrayFront : "[Ix".toList = TypeDescriptor.render ⟨1, .primitive .int⟩ ++ ['x'] := by decide
  refine ⟨⟨hvoid, fun hspelled => ?_⟩, ⟨hclass, fun hspelled => ?_⟩, ⟨harray, fun hspelled => ?_⟩⟩
  · obtain ⟨hrest, -⟩ := (MethodSignature.spelled_iff hvoid (by decide) hvoidFront).1 hspelled
    cases hrest
  · obtain ⟨-, hreturns⟩ := (MethodSignature.spelled_iff hclass (by decide) hclassFront).1 hspelled
    exact hreturns (by decide)
  · cases (JavaType.spelled_iff harray (by decide) harrayFront).1 hspelled

/-- **Every spelling of a descriptor is accepted as what it denotes.**

The spelling of a method whose return type has no parenthesis in its class name gives the number of
the parameters and the return type. The spelling of a type other than `void` gives that type.

Different types of fields have different names, unless a class is named like an array type or a
primitive type. So the rows of two such fields are different: what is written to the one, and what
is made up for it when it is read, leaves the other as it is. -/
theorem render_accepted :
    (∀ m : MethodDescriptor, m.Readable →
      (∀ className, m.returns.base = .reference className → ')' ∉ className) →
        MethodSignature.ofText (String.ofList m.render) =
          .ok ⟨m.parameters.length, m.returns.javaType⟩) ∧
    (∀ t : TypeDescriptor, t.Readable → t ≠ .void →
      JavaType.ofText (String.ofList t.render) = .ok t.javaType) ∧
    ∀ t t' : TypeDescriptor, t.Readable → t'.Readable → t ≠ .void → t' ≠ .void →
      t.HasOwnName → t'.HasOwnName → t ≠ t' →
        t.javaType.name ≠ t'.javaType.name ∧
        ∀ (table : FieldTable Note) (name name' : String),
          (∀ value, (table.set (fieldKey name t.javaType) value).get? (fieldKey name' t'.javaType) =
            table.get? (fieldKey name' t'.javaType)) ∧
          ∀ source taint value table',
            table.read name t.javaType source taint = some (value, table') →
              table'.get? (fieldKey name' t'.javaType) =
                table.get? (fieldKey name' t'.javaType) := by
  refine ⟨fun m hreadable hclass => ?_, fun t hreadable hvoid => ?_, ?_⟩
  · have hname := JavaType.named_render m.returns
    rw [← MethodSignature.behindParameters_render
      (TypeDescriptor.parenthesis_not_mem_render hclass)] at hname
    refine MethodSignature.ofText_eq_ok_iff.2 ⟨m, hreadable, ⟨[], ?_⟩, rfl, ?_⟩
    · rw [String.toList_ofList, List.append_nil]
    · rwa [String.toList_ofList]
  · refine JavaType.ofText_eq_ok_iff.2 ⟨t, hreadable, hvoid, ⟨[], ?_⟩, ?_⟩
    · rw [String.toList_ofList, List.append_nil]
    · rw [String.toList_ofList]
      exact JavaType.named_render t
  · intro t t' hreadable hreadable' hvoid hvoid' hown hown' hne
    have hnames := TypeDescriptor.name_ne_name hreadable hreadable' hvoid hvoid' hown hown' hne
    refine ⟨hnames, fun table name name' => ?_⟩
    -- The name of its type is a part of the key of a field.
    have hkeys : fieldKey name t.javaType ≠ fieldKey name' t'.javaType :=
      fun heq => hnames (FieldKey.mk.inj heq).2
    refine ⟨fun value => ?_, fun source taint value table' hread => ?_⟩
    · rw [FieldTable.get?_set, if_neg hkeys]
    · exact FieldTable.get?_of_read hread hkeys

/-- A method with a parenthesis in the class of a parameter, and two fields of one name, of which
one is an array of what the other is. -/
theorem render_accepted_strings :
    MethodSignature.ofText "(La)b;[[I)Ljava/lang/String;" =
      .ok ⟨2, ⟨.string, "java/lang/String"⟩⟩ ∧
    JavaType.ofText "[Lx)y;" = .ok ⟨.array, "[Lx)y;"⟩ ∧
    JavaType.ofText "Lx)y;" = .ok ⟨.object, "x)y"⟩ ∧
    (FieldTable.set {} (fieldKey "f" ⟨.array, "[Lx)y;"⟩) (Note.string ⟨.native, "a"⟩)).get?
      (fieldKey "f" ⟨.object, "x)y"⟩) = none := by
  obtain ⟨hmethod, hfield, hrows⟩ := render_accepted
  have hreadable : TypeDescriptor.Readable ⟨1, .reference "x)y".toList⟩ := by decide
  have hreadable' : TypeDescriptor.Readable ⟨0, .reference "x)y".toList⟩ := by decide
  have hown : TypeDescriptor.HasOwnName ⟨1, .reference "x)y".toList⟩ := by
    intro className heq
    cases (TypeDescriptor.mk.inj heq).1
  have hown' : TypeDescriptor.HasOwnName ⟨0, .reference "x)y".toList⟩ := by
    intro className heq
    obtain ⟨-, hbase⟩ := TypeDescriptor.mk.inj heq
    rw [← BaseType.reference.inj hbase]
    exact ⟨by decide, fun p => by cases p <;> decide⟩
  refine ⟨?_, hfield _ hreadable (by decide), hfield _ hreadable' (by decide), ?_⟩
  · exact hmethod ⟨[{ base := .reference "a)b".toList }, ⟨2, .primitive .int⟩],
      { base := .reference stringClass.toList }⟩ (by decide)
      (fun className hclass => by rw [← BaseType.reference.inj hclass]; decide)
  · obtain ⟨-, hrow⟩ :=
      hrows _ _ hreadable hreadable' (by decide) (by decide) hown hown' (by decide)
    exact (hrow {} "f" "f").1 _

end Descriptor

end NativeFlow
