namespace NativeFlow

/-!
# Traces

A trace records one run of native code: the memory it saw, the values it was handed, and the
interface functions it called.

* `Trace`: such a record.
* `Region`, `Input`, `RecordedCall`: its three parts.
-/

/-- The contents of a memory region. -/
inductive RegionContents where
  /-- A text, which has a zero byte behind it in memory. -/
  | text (value : String)
  | bytes (values : List UInt8)
  /-- Words as wide as a pointer. -/
  | words (values : List UInt64)
  deriving DecidableEq

/-- A memory region. -/
structure Region where
  address : UInt64
  contents : RegionContents
  deriving DecidableEq

/-- A value that Java code hands to native code. -/
inductive InputValue where
  | object (javaType : String) (tainted : Bool) (categories : List String)
  | classObject (className : String)
  | string (value : String)
  | primitive (javaType : String) (tainted : Bool) (categories : List String)
  deriving DecidableEq

/-- A named value that Java code hands to native code. -/
structure Input where
  name : String
  value : InputValue
  deriving DecidableEq

/-- How a call addresses its function. -/
inductive Target where
  | function (name : String)
  | symbol (name : String)
  | slot (index : UInt64)
  deriving DecidableEq

/-- An argument of a call: a number, or a value that has a name. -/
inductive Argument where
  | literal (value : UInt64)
  | reference (name : String)
  | address (value : UInt64)
  deriving DecidableEq

/-- A call of an interface function; its result may be given a name. -/
structure RecordedCall where
  target : Target
  args : List Argument := []
  bind : Option String := none
  deriving DecidableEq

/-- The record of one run of native code. -/
structure Trace where
  pointerBits : UInt32 := 64
  memory : List Region := []
  inputs : List Input := []
  calls : List RecordedCall := []
  deriving DecidableEq

end NativeFlow
