import NativeFlow.Note
import NativeFlow.Text.Numeral

namespace NativeFlow

/-!
# Findings

* `Finding`: what a replay reports, apart from the values it computes.
* `Rule`: the kinds of findings, with the wording that goes into a report.
* `Finding.message`, `Finding.location`: the wording of a finding and the method it belongs to.
-/

/-- Something worth reporting. -/
inductive Finding where
  /-- An activity was started through an Intent with inter-component state. -/
  | iccEdge (caller : String) (activityName : Option String)
      (extras : List (String × Option Note))
  /-- A tainted value was passed to a sink of the catalog. -/
  | taintedSink (method : String) (position : Nat) (categories : List String)
  /-- A native method was registered again with another function. -/
  | nativeRebind (name signature : String) (className : Option String) (previous current : UInt64)

/-- A kind of finding. -/
inductive Rule where
  | iccEdge
  | nativeRebind
  | taintedSink
  deriving DecidableEq, Repr

namespace Rule

/-- Every rule, in the order in which reports list them. -/
def all : List Rule := [.iccEdge, .nativeRebind, .taintedSink]

/-- The identifier of a rule. -/
def id : Rule → String
  | .iccEdge => "JNI_ICC_EDGE"
  | .nativeRebind => "JNI_NATIVE_REBIND"
  | .taintedSink => "JNI_TAINTED_SINK"

/-- The title of a rule. -/
def title : Rule → String
  | .iccEdge => "ICC edge"
  | .nativeRebind => "Native method rebinding"
  | .taintedSink => "Tainted sink argument"

/-- What a rule reports. -/
def description : Rule → String
  | .iccEdge => "Native code starts an activity through an explicit Intent"
  | .nativeRebind => "RegisterNatives replaced an existing binding with a different function"
  | .taintedSink => "A tainted value reaches a catalog sink through a JNI call"

end Rule

namespace Finding

/-- The rule that a finding falls under. -/
def rule : Finding → Rule
  | .iccEdge .. => .iccEdge
  | .taintedSink .. => .taintedSink
  | .nativeRebind .. => .nativeRebind

/-- Words with a comma between them. -/
def listing (words : List String) : String := ", ".intercalate words

/-- The wording of a finding. -/
def message : Finding → String
  | .iccEdge _ activityName extras =>
    "ICC edge to " ++ activityName.getD "<unknown activity>" ++ " with extras [" ++
      listing (extras.map Prod.fst) ++ "]"
  | .taintedSink method position categories =>
    "Tainted argument " ++ Numeral.decimal position ++ " (" ++ listing categories ++
      ") reaches sink " ++ method
  | .nativeRebind name signature _ previous current =>
    "Native method " ++ name ++ signature ++ " rebound from 0x" ++
      Numeral.hexadecimal previous.toNat ++ " to 0x" ++ Numeral.hexadecimal current.toNat

/-- The method that a finding belongs to. -/
def location : Finding → String
  | .iccEdge caller .. => caller
  | .taintedSink method .. => method
  | .nativeRebind name signature (some className) .. => fullSignature className name signature
  | .nativeRebind name signature none .. => name ++ ":" ++ signature

end Finding

end NativeFlow
