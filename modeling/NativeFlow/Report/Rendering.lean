import NativeFlow.Json.Basic
import NativeFlow.Replay.Basic

namespace NativeFlow

/-!
# Rendering

How notes, values, findings and counts are written in reports.

* `Note.toJson`, `Value.toJson`, `Finding.toJson`, `Coverage.toJson`.
-/

/-- A record of taint. -/
def Taint.toJson (taint : Taint) : Json :=
  .object [
    ("is_tainted", .bool taint.isTainted),
    ("source_kind", .ofOption (fun origin => .string origin.name) taint.origin?),
    ("categories", .strings taint.categories.toList)]

mutual

/-- A note. -/
def Note.toJson : Note → Json
  | .classIdentity ⟨className, ⟨rows⟩⟩ =>
    .object [
      ("kind", .string "class"),
      ("class_name", .string className),
      ("fields", .array (rowsToJson rows))]
  | .object ⟨source, javaType, ⟨rows⟩, taint, icc⟩ =>
    .object [
      ("kind", .string "object"),
      ("source", .string source.name),
      ("java_type", .string javaType),
      ("fields", .array (rowsToJson rows)),
      ("taint", taint.toJson),
      ("icc", iccToJson icc)]
  | .string literal =>
    .object [
      ("kind", .string "string"),
      ("source", .string literal.source.name),
      ("value", .string literal.value)]
  | .method identity =>
    .object [
      ("kind", .string "method"),
      ("class_name", .string identity.className),
      ("method_name", .string identity.methodName),
      ("signature", .string identity.signature)]
  | .field identity =>
    .object [
      ("kind", .string "field"),
      ("class_name", .string identity.className),
      ("field_name", .string identity.fieldName),
      ("signature", .string identity.signature)]
  | .primitive value =>
    .object [
      ("kind", .string "primitive"),
      ("source", .string value.source.name),
      ("java_type", .string value.javaType),
      ("taint", value.taint.toJson)]

/-- The rows of a field table. -/
def rowsToJson : List (FieldKey × Note) → List Json
  | [] => []
  | (key, value) :: rest =>
    .object [
      ("name", .string key.name),
      ("declared_type", .string key.declaredType),
      ("value", value.toJson)] :: rowsToJson rest

/-- The inter-component state of an object. -/
def iccToJson : Option (IccState Note) → Json
  | none => .null
  | some ⟨isIcc, activityName, extras⟩ =>
    .object [
      ("is_icc", .bool isIcc),
      ("activity_name", .ofOption .string activityName),
      ("extras", .object (extrasToJson extras))]

/-- The extras of an Intent. -/
def extrasToJson : List (String × Option Note) → List (String × Json)
  | [] => []
  | (key, none) :: rest => (key, .null) :: extrasToJson rest
  | (key, some value) :: rest => (key, value.toJson) :: extrasToJson rest

end

/-- A value. -/
def Value.toJson (v : Value) : Json :=
  .object [
    ("handle", .natural v.handle.toNat),
    ("bits", .natural v.bits),
    ("annotations", .array (v.notes.map Note.toJson))]

/-- A finding. -/
def Finding.toJson : Finding → Json
  | .iccEdge caller activityName extras =>
    .object [
      ("kind", .string "icc_edge"),
      ("caller", .string caller),
      ("activity_name", .ofOption .string activityName),
      ("extras", .object (extrasToJson extras))]
  | .taintedSink method position categories =>
    .object [
      ("kind", .string "tainted_sink"),
      ("method", .string method),
      ("position", .natural position),
      ("categories", .strings categories)]
  | .nativeRebind name signature className previous current =>
    .object [
      ("kind", .string "native_rebind"),
      ("name", .string name),
      ("signature", .string signature),
      ("class_name", .ofOption .string className),
      ("previous", .natural previous.toNat),
      ("current", .natural current.toNat)]

/-- Counts by name. -/
def countsToJson (counts : SortedMap String Nat) : Json :=
  .object (counts.entries.map fun (name, count) => (name, .natural count))

/-- Counts of calls. -/
def Coverage.toJson (coverage : Coverage) : Json :=
  .object [
    ("modeled", .natural coverage.modeled),
    ("fallback", .natural coverage.fallback),
    ("faults", .natural coverage.faults),
    ("per_function", countsToJson coverage.perFunction),
    ("fallback_functions", countsToJson coverage.fallbackFunctions)]

/-- The members that describe a registered native method. -/
def nativeMembers (key : NativeKey) (binding : NativeBinding) : List (String × Json) := [
  ("name", .string key.name),
  ("signature", .string key.signature),
  ("class_name", .ofOption .string binding.className),
  ("fn_ptr", .natural binding.pointer.toNat)]

end NativeFlow
