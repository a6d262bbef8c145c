import Mathlib.Data.List.Basic
import NativeFlow.Command.Options
import NativeFlow.Proofs.Run

namespace NativeFlow

/-!
# What a command line gives

An option stands in front of its value, or is joined to it by an equals sign. A command line that is
accepted gives every option the values that stand there, in their order.

* `ValueOption.values`: the values of an option, looked up in the arguments.
* `Options.given`: the values that an option has been given.
* `Options.FirstRead`: the ways to read an argument (`Options.firstRead_of_read`).
* `Options.given_read`: reading goes on with what has been given so far and what waits.
* `Options.given_ofArguments`: what an accepted command line gives.
-/

/-! ### Arguments -/

namespace ValueOption

/-- The name of an option. -/
def name : ValueOption → String
  | .trace => "trace"
  | .catalog => "catalog"
  | .output => "output"
  | .collector => "otel"

/-- An option as an argument. -/
def flag (option : ValueOption) : String := "--" ++ option.name

/-- The value that an argument joins to an option. -/
def joined? (option : ValueOption) (argument : String) : Option String :=
  let front := (option.flag ++ "=").toList
  if front.isPrefixOf argument.toList then some (.ofList (argument.toList.drop front.length))
  else none

/-- The values of an option, in the order of the arguments. -/
def values (option : ValueOption) : List String → List String
  | [] => []
  | argument :: rest =>
    if argument = option.flag then rest.head?.toList ++ option.values rest
    else (option.joined? argument).toList ++ option.values rest

/-- `ValueOption.ofName?` undoes `ValueOption.name`, and knows no other names. -/
theorem ofName?_eq_some_iff {option : ValueOption} {name : String} :
    ofName? name = some option ↔ name = option.name := by
  constructor
  · intro h
    unfold ofName? at h
    split at h
    all_goals cases h
    all_goals rfl
  · rintro rfl
    cases option <;> rfl

/-- Different options have different names. -/
@[simp] theorem name_inj {a b : ValueOption} : a.name = b.name ↔ a = b := by
  refine ⟨fun h => ?_, congrArg name⟩
  have hname := ofName?_eq_some_iff.2 h
  rw [ofName?_eq_some_iff.2 rfl] at hname
  exact Option.some.inj hname

end ValueOption

/-! ### Shapes of arguments -/

namespace Options

variable {o o' : Options} {waiting : Waiting} {option other : ValueOption} {argument name : String}
  {value : String} {value? : Option String} {rest arguments : List String}

/-- An argument of the shape `long` is two dashes, the name, and where there is a value an equals
sign in front of it. -/
theorem toList_of_long (h : shape argument = .long name value?) :
    argument.toList =
      '-' :: '-' :: (name.toList ++ (value?.map fun value => '=' :: value.toList).getD []) := by
  unfold shape at h
  split at h
  case h_1 => cases h
  case h_2 rest _ hlist =>
    have hsplit : rest.takeWhile (· ≠ '=') ++ rest.dropWhile (· ≠ '=') = rest :=
      List.takeWhile_append_dropWhile
    have hhead := List.head?_dropWhile_not (· ≠ '=') rest
    -- Without an equals sign all is name; otherwise the value is what stands behind the first one.
    cases hdrop : rest.dropWhile (· ≠ '=') with
    | nil =>
      simp only [hdrop] at h
      cases h
      rw [hdrop] at hsplit
      rw [hlist, String.toList_ofList, Option.map_none, Option.getD_none, hsplit]
    | cons c value =>
      simp only [hdrop] at h
      cases h
      rw [hdrop] at hsplit hhead
      have hc : c = '=' := by simpa using hhead
      rw [hc] at hsplit
      rw [hlist, String.toList_ofList, Option.map_some, Option.getD_some, String.toList_ofList,
        hsplit]
  case h_3 => cases h
  case h_4 => cases h

/-- The name of an option alone has no value yet. -/
theorem shape_flag (option : ValueOption) : shape option.flag = .long option.name none := by
  cases option <;> rfl

/-- What stands behind the first equals sign is the value, other equals signs included. -/
theorem shape_joined (option : ValueOption) (value : List Char)
    (h : argument.toList = (option.flag ++ "=").toList ++ value) :
    shape argument = .long option.name (some (.ofList value)) := by
  unfold shape
  rw [h]
  cases option <;> rfl

/-- An argument is `option.flag` exactly if its shape says so. -/
theorem eq_flag_iff : argument = option.flag ↔ shape argument = .long option.name none := by
  constructor
  · rintro rfl
    exact shape_flag option
  · intro h
    have hlist := toList_of_long h
    rw [Option.map_none, Option.getD_none, List.append_nil] at hlist
    rw [← String.toList_inj, hlist, ValueOption.flag, String.toList_append]
    rfl

/-- An argument joins `value` to the option exactly if its shape says so. -/
theorem joined?_eq_some_iff :
    option.joined? argument = some value ↔ shape argument = .long option.name (some value) := by
  simp only [ValueOption.joined?]
  split
  case isTrue hfront =>
    obtain ⟨text, htext⟩ := List.isPrefixOf_iff_prefix.1 hfront
    rw [shape_joined option text htext.symm, ← htext, List.drop_left]
    simp
  case isFalse hfront =>
    refine ⟨fun h => (by cases h), fun h => absurd ?_ hfront⟩
    have hlist := toList_of_long h
    rw [Option.map_some, Option.getD_some] at hlist
    refine List.isPrefixOf_iff_prefix.2 ⟨value.toList, ?_⟩
    simp [hlist, ValueOption.flag, String.toList_append]

/-- What an argument gives an option, together with those behind it. -/
def own (option : ValueOption) (rest : List String) : Shape → List String
  | .long name value? => if name = option.name then (value?.or rest.head?).toList else []
  | _ => []

/-- `ValueOption.values` of a command line, by the shape of its first argument. -/
theorem values_cons (option : ValueOption) (argument : String) (rest : List String) :
    option.values (argument :: rest) = own option rest (shape argument) ++ option.values rest := by
  rw [ValueOption.values]
  split
  case isTrue hflag =>
    rw [eq_flag_iff.1 hflag, own, if_pos rfl, Option.none_or]
  case isFalse hflag =>
    cases hjoined : option.joined? argument with
    | some value =>
      rw [joined?_eq_some_iff.1 hjoined, own, if_pos rfl, Option.some_or]
    | none =>
      -- The argument is neither the option nor the option with a value, so its name is another one.
      have hown : own option rest (shape argument) = [] := by
        cases hshape : shape argument with
        | separator | short _ | plain => rfl
        | long name value? =>
          refine if_neg fun hname => ?_
          subst hname
          cases value? with
          | none => exact hflag (eq_flag_iff.2 hshape)
          | some value => simp [joined?_eq_some_iff.2 hshape] at hjoined
      rw [hown]
      rfl

/-! ### Reading -/

/-- The values that an option has been given. -/
def given (o : Options) : ValueOption → List String
  | .trace => o.traces
  | .catalog => o.catalog.toList
  | .output => o.output.toList
  | .collector => o.collector.toList

/-- What the option that waits will be given: the value that has been seen, or else the next
argument. -/
def pending (option : ValueOption) (arguments : List String) : Waiting → List String
  | none => []
  | some (other, value?) => if other = option then (value?.or arguments.head?).toList else []

/-- An option that may be given once has not been given before. -/
theorem once_eq_ok {previous result : Option String} (h : once previous value = .ok result) :
    previous = none ∧ result = some value := by
  unfold once at h
  split at h
  case isTrue => cases h
  case isFalse hprevious =>
    split at h
    case isTrue => cases h
    case isFalse =>
      cases h
      exact ⟨Option.not_isSome_iff_eq_none.1 hprevious, rfl⟩

/-- `Options.assign` puts the value behind those that the option has been given, and leaves all
others as they are. -/
theorem given_assign (h : o.assign other (some value) = .ok o') (option : ValueOption) :
    o'.given option = o.given option ++ if other = option then [value] else [] := by
  -- Traces add up; each of the other options is refused if it has a value already.
  cases other with
  | trace =>
    simp only [assign] at h
    split at h
    case isTrue => cases h
    case isFalse =>
      cases h
      cases option <;> simp [given]
  | catalog =>
    obtain ⟨catalog, honce, rfl⟩ := map_eq_ok_iff.1 h
    obtain ⟨hnone, rfl⟩ := once_eq_ok honce
    cases option <;> simp [given, hnone]
  | output =>
    obtain ⟨output, honce, rfl⟩ := map_eq_ok_iff.1 h
    obtain ⟨hnone, rfl⟩ := once_eq_ok honce
    cases option <;> simp [given, hnone]
  | collector =>
    simp only [assign] at h
    split at h
    case isTrue => cases h
    case isFalse hcollector =>
      cases h
      have hnone := Option.not_isSome_iff_eq_none.1 hcollector
      cases option <;> simp [given, hnone]

/-- A switch gives no option a value. -/
theorem given_switchOn {switch : Switch} (h : o.switchOn switch = .ok o') : o'.given = o.given := by
  cases switch with
  | quiet | timing =>
    simp only [switchOn] at h
    split at h
    case isTrue => cases h
    case isFalse =>
      cases h
      rfl
  | help | version => cases h

/-- `Options.settle` gives the option that waits its value. Without one it is refused, so
`arguments` does not matter. -/
theorem given_settle (h : o.settle waiting = .ok o') (option : ValueOption)
    (arguments : List String) :
    o'.given option = o.given option ++ pending option arguments waiting := by
  cases waiting with
  | none =>
    cases h
    exact (List.append_nil _).symm
  | some entry =>
    obtain ⟨other, value?⟩ := entry
    cases value? with
    | none => cases h
    | some value => exact given_assign h option

/-- How the first argument of a line is read. -/
inductive FirstRead (o : Options) (waiting : Waiting) (argument : String) (rest : List String)
    (o' : Options) : Prop
  /-- It ends the line. -/
  | separator (hshape : shape argument = .separator) (hrest : rest = [])
    (hsettle : o.settle waiting = .ok o')
  /-- It names an option whose value follows. -/
  | flag (other : ValueOption) (settled : Options) (hshape : shape argument = .long other.name none)
    (hsettle : o.settle waiting = .ok settled)
    (hread : read settled (some (other, none)) rest = .ok o')
  /-- It names an option and has its value. -/
  | joined (other : ValueOption) (value : String) (settled assigned : Options)
    (hshape : shape argument = .long other.name (some value))
    (hsettle : o.settle waiting = .ok settled)
    (hassign : settled.assign other (some value) = .ok assigned)
    (hread : read assigned none rest = .ok o')
  /-- It is a switch. -/
  | switch (switch : Switch) (settled switched : Options)
    (hown : ∀ option, own option rest (shape argument) = [])
    (hsettle : o.settle waiting = .ok settled) (hswitch : settled.switchOn switch = .ok switched)
    (hread : read switched none rest = .ok o')
  /-- It is the value that an option waits for. -/
  | plain (other : ValueOption) (hshape : shape argument = .plain)
    (hwaiting : waiting = some (other, none))
    (hread : read o (some (other, some argument)) rest = .ok o')

/-- A line that is accepted has a first argument of one of the shapes of `FirstRead`: one case for
each branch of `Options.read`. -/
theorem firstRead_of_read (h : read o waiting (argument :: rest) = .ok o') :
    FirstRead o waiting argument rest o' := by
  unfold read at h
  cases hshape : shape argument with
  | separator =>
    simp only [hshape] at h
    split at h
    case isTrue hrest => exact .separator hshape (List.isEmpty_iff.1 hrest) h
    case isFalse => cases h
  | long name value? =>
    simp only [hshape] at h
    split at h
    case h_1 other hother =>
      -- An option: the one that waits is settled first.
      cases ValueOption.ofName?_eq_some_iff.1 hother
      cases hsettle : o.settle waiting with
      | error error => simp [hsettle] at h
      | ok settled =>
        simp only [hsettle] at h
        cases value? with
        | none => exact .flag other settled hshape hsettle h
        | some value =>
          cases hassign : settled.assign other (some value) with
          | error error => simp [hassign] at h
          | ok assigned =>
            simp only [hassign] at h
            exact .joined other value settled assigned hshape hsettle hassign h
    case h_2 switch hother hswitch =>
      -- The name of a switch is not that of an option.
      have hown (option : ValueOption) : own option rest (shape argument) = [] := by
        rw [hshape]
        refine if_neg fun hname => ?_
        rw [ValueOption.ofName?_eq_some_iff.2 hname] at hother
        cases hother
      split at h
      case isTrue => cases h
      case isFalse =>
        split at h
        case h_1 => cases h
        case h_2 switched hbind =>
          obtain ⟨settled, hsettle, hswitch⟩ := bind_eq_ok_iff.1 hbind
          exact .switch switch settled switched hown hsettle hswitch h
    case h_3 => cases h
  | short letter =>
    simp only [hshape] at h
    split at h
    case h_1 switch hswitch =>
      split at h
      case h_1 => cases h
      case h_2 switched hbind =>
        obtain ⟨settled, hsettle, hswitch⟩ := bind_eq_ok_iff.1 hbind
        have hown (option : ValueOption) : own option rest (shape argument) = [] := by
          rw [hshape]
          rfl
        exact .switch switch settled switched hown hsettle hswitch h
    case h_2 => cases h
  | plain =>
    simp only [hshape] at h
    split at h
    case h_1 other => exact .plain other hshape rfl h
    case h_2 => cases h

/-- **Reading goes on** with what has been given so far and with what waits: each option gets,
behind the values that it has, the one that waits for it and those in the arguments. -/
theorem given_read (h : read o waiting arguments = .ok o') (option : ValueOption) :
    o'.given option =
      o.given option ++ pending option arguments waiting ++ option.values arguments := by
  -- The induction is on the arguments that are left, with any option that waits in front of them.
  induction arguments generalizing o waiting with
  | nil => rw [given_settle h option [], ValueOption.values, List.append_nil]
  | cons argument rest ih =>
    rw [values_cons]
    cases firstRead_of_read h with
    | separator hshape hrest hsettle =>
      subst hrest
      rw [given_settle hsettle option [argument], hshape]
      simp [own, ValueOption.values]
    | flag other settled hshape hsettle hread =>
      rw [ih hread, given_settle hsettle option (argument :: rest), hshape]
      simp [own, pending]
    | joined other value settled assigned hshape hsettle hassign hread =>
      rw [ih hread, given_assign hassign, given_settle hsettle option (argument :: rest), hshape]
      simp [own, pending]
    | switch switch settled switched hown hsettle hswitch hread =>
      rw [ih hread, given_switchOn hswitch, given_settle hsettle option (argument :: rest), hown]
      simp [pending]
    | plain other hshape hwaiting hread =>
      rw [ih hread, hshape, hwaiting]
      simp [own, pending]

/-- An accepted command line has been read to its end and names a trace. -/
theorem read_of_ofArguments (h : ofArguments arguments = .ok o) :
    read {} none arguments = .ok o ∧ o.traces ≠ [] := by
  unfold ofArguments at h
  cases hread : read {} none arguments with
  | error error => simp [hread] at h
  | ok result =>
    simp only [hread] at h
    split at h
    case isTrue => cases h
    case isFalse htraces =>
      cases h
      exact ⟨rfl, fun hnil => htraces (List.isEmpty_iff.2 hnil)⟩

/-- **A command line that is accepted** gives every option the values that stand in it. -/
theorem given_ofArguments (h : ofArguments arguments = .ok o) (option : ValueOption) :
    o.given option = option.values arguments := by
  rw [given_read (read_of_ofArguments h).1]
  cases option <;> rfl

end Options

end NativeFlow
