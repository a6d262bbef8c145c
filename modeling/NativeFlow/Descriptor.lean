import NativeFlow.Note

namespace NativeFlow

/-!
# Type descriptors

A descriptor spells a type with one letter for a primitive type or `void`, with `L`, a class name
and `;` for a class, and with a `[` in front for every dimension of an array. A method descriptor
has its parameters between parentheses and its return type behind them.

* `TypeDescriptor`, `MethodDescriptor`: what descriptors spell, with `render` for the spelling.
* `MethodDescriptor.read`: the method descriptor at the front of a text. What stands behind the
  return type is not looked at.
* `MethodSignature.ofText`, `JavaType.ofText`: the number of parameters and the return type of a
  method, and the type of a field. The name of the type is taken from the text itself, behind the
  last parenthesis, and has to agree with the kind that was read.
* `DescriptorError.message`: the text of a refusal.
-/

/-! ### Spelling -/

/-- A type that is no array. -/
inductive BaseType where
  | void
  | primitive (type : Primitive)
  | reference (className : List Char)
  deriving DecidableEq

/-- A type: the number of its array dimensions and what stands behind them. -/
structure TypeDescriptor where
  dimensions : Nat := 0
  base : BaseType
  deriving DecidableEq

/-- The parameters and the return type of a method. -/
structure MethodDescriptor where
  parameters : List TypeDescriptor
  returns : TypeDescriptor
  deriving DecidableEq

/-- The spelling of a type that is no array. -/
def BaseType.render : BaseType → List Char
  | .void => ['V']
  | .primitive type => [type.letter]
  | .reference className => 'L' :: className ++ [';']

/-- The spelling of a type. -/
def TypeDescriptor.render (t : TypeDescriptor) : List Char :=
  List.replicate t.dimensions '[' ++ t.base.render

/-- The spelling of a method's type. -/
def MethodDescriptor.render (m : MethodDescriptor) : List Char :=
  '(' :: m.parameters.flatMap TypeDescriptor.render ++ ')' :: m.returns.render

/-! ### Refusals -/

/-- Why a descriptor cannot be read. -/
inductive DescriptorFault where
  | ended
  | unclosedClass
  | tooManyDimensions
  | arrayOfNothing
  | unknownLetter
  | noParameterList
  | noReturnType
  | unexpectedType (text : String)
  deriving DecidableEq

/-- The text of a fault. -/
def DescriptorFault.message : DescriptorFault → String
  | .ended => "Unexpected end of input."
  | .unclosedClass => "Invalid descriptor: Missing semicolon in class name descriptor."
  | .tooManyDimensions => "Array has too many dimensions."
  | .arrayOfNothing => "Invalid descriptor: Invalid descriptor."
  | .unknownLetter => "Invalid descriptor: Unrecognized type descriptor."
  | .noParameterList => "Invalid descriptor: Method descriptor must start with '('."
  | .noReturnType => "Invalid descriptor: Missing return type."
  | .unexpectedType text => "unexpected type `" ++ text ++ "`"

/-- Why a text is no descriptor of the wanted kind. -/
inductive DescriptorError where
  | malformed (descriptor : String) (fault : DescriptorFault)
  | voidField (descriptor : String)
  deriving DecidableEq

/-- The text of a refusal. -/
def DescriptorError.message : DescriptorError → String
  | .malformed descriptor fault => "malformed descriptor `" ++ descriptor ++ "`: " ++ fault.message
  | .voidField descriptor => "field descriptor `" ++ descriptor ++ "` cannot be void"

/-! ### Reading -/

namespace TypeDescriptor

/-- The largest number of array dimensions. -/
def maxDimensions : Nat := 255

/-- The type without dimensions at the front of a text, or `none` for a closing parenthesis. -/
def readBase : List Char → Except DescriptorFault (Option BaseType × List Char)
  | [] => .error .ended
  | ')' :: rest => .ok (none, rest)
  | 'V' :: rest => .ok (some .void, rest)
  | 'L' :: rest =>
    match rest.dropWhile (· ≠ ';') with
    | [] => .error .unclosedClass
    | _ :: after => .ok (some (.reference (rest.takeWhile (· ≠ ';'))), after)
  | c :: rest =>
    match Primitive.ofLetter? c with
    | some type => .ok (some (.primitive type), rest)
    | none => .error .unknownLetter

/-- The type at the front of a text, or `none` for a closing parenthesis. -/
def read (text : List Char) : Except DescriptorFault (Option TypeDescriptor × List Char) :=
  let dimensions := (text.takeWhile (· = '[')).length
  if maxDimensions < dimensions then .error .tooManyDimensions
  else
    match readBase (text.drop dimensions) with
    | .error fault => .error fault
    | .ok (some base, rest) => .ok (some { dimensions, base }, rest)
    | .ok (none, rest) => if dimensions = 0 then .ok (none, rest) else .error .arrayOfNothing

end TypeDescriptor

namespace MethodDescriptor

/-- The parameters up to the closing parenthesis, which is read. Every parameter takes at least one
character, so the text is long enough to count them by. -/
def readParameters (text : List Char) :
    Except DescriptorFault (List TypeDescriptor × List Char) :=
  go text [] text
where
  /-- Reads on behind the parameters in `done`, which come latest first. -/
  go : (clock : List Char) → List TypeDescriptor → List Char →
      Except DescriptorFault (List TypeDescriptor × List Char)
    | [], _, _ => .error .ended
    | _ :: clock, done, text =>
      match TypeDescriptor.read text with
      | .error fault => .error fault
      | .ok (none, rest) => .ok (done.reverse, rest)
      | .ok (some type, rest) => go clock (type :: done) rest

/-- The method descriptor at the front of a text. -/
def read : List Char → Except DescriptorFault MethodDescriptor
  | '(' :: text =>
    match readParameters text with
    | .error fault => .error fault
    | .ok (parameters, rest) =>
      match TypeDescriptor.read rest with
      | .error fault => .error fault
      | .ok (none, _) => .error .noReturnType
      | .ok (some returns, _) => .ok { parameters, returns }
  | _ => .error .noParameterList

end MethodDescriptor

/-! ### Java types -/

namespace JavaType

/-- The type of a reference of which the class name is known. -/
def ofClassName (name : List Char) : JavaType :=
  let text := String.ofList name
  if text = stringClass then ⟨.string, text⟩
  else if name.head? = some '[' then ⟨.array, text⟩
  else ⟨.object, text⟩

/-- The class name in the spelling of a class. -/
def classOfSpelling? : List Char → Option (List Char)
  | 'L' :: rest => if rest.getLast? = some ';' then some rest.dropLast else none
  | _ => none

/-- The Java type that is spelled by `text` and was read as `type`. -/
def ofSpelling (type : TypeDescriptor) (text : List Char) : Except DescriptorFault JavaType :=
  let refusal := DescriptorFault.unexpectedType (String.ofList text)
  if type.dimensions = 0 then
    match type.base with
    -- Here the text is not compared with what was read.
    | .void => .ok ⟨.void, "void"⟩
    | .primitive _ =>
      match text with
      | [c] =>
        match Primitive.ofLetter? c with
        | some type => .ok ⟨.primitive type, type.keyword⟩
        | none => .error refusal
      | _ => .error refusal
    | .reference _ =>
      match classOfSpelling? text with
      | some name => .ok (ofClassName name)
      | none => .error refusal
  -- Nor is it here: an array type goes by the text as it stands.
  else .ok ⟨.array, String.ofList text⟩

/-- The type of a field with the given descriptor. -/
def ofText (descriptor : String) : Except DescriptorError JavaType :=
  let text := descriptor.toList
  -- A field is read as the result of a method without parameters.
  match MethodDescriptor.read ('(' :: ')' :: text) with
  | .error fault => .error (.malformed descriptor fault)
  | .ok parsed =>
    match ofSpelling parsed.returns text with
    | .error fault => .error (.malformed descriptor fault)
    | .ok type => if type.kind = .void then .error (.voidField descriptor) else .ok type

end JavaType

/-- The number of parameters of a method and its return type. -/
structure MethodSignature where
  argumentCount : Nat
  returns : JavaType
  deriving DecidableEq

namespace MethodSignature

/-- What stands behind the last closing parenthesis of a text. -/
def behindParameters (text : List Char) : List Char :=
  (text.reverse.takeWhile (· ≠ ')')).reverse

/-- The signature of a method with the given descriptor. -/
def ofText (descriptor : String) : Except DescriptorError MethodSignature :=
  let text := descriptor.toList
  match MethodDescriptor.read text with
  | .error fault => .error (.malformed descriptor fault)
  | .ok parsed =>
    -- The last parenthesis need not be the one that closes the parameters.
    match JavaType.ofSpelling parsed.returns (behindParameters text) with
    | .error fault => .error (.malformed descriptor fault)
    | .ok returns => .ok ⟨parsed.parameters.length, returns⟩

end MethodSignature

end NativeFlow
