import NativeFlow.SortedMap

namespace NativeFlow

/-!
# Coverage

* `Coverage`: how many calls the model covered, how many it did not, and how many failed.
* `Coverage.record`: takes in one call.
* `Coverage.merge`: the sum of two counts.
-/

/-- How a call went. -/
inductive Handling where
  /-- The model covered the call. -/
  | modeled
  /-- Nothing is known about the result. -/
  | fallback
  /-- The call failed and ended the run. -/
  | fault
  deriving DecidableEq, Repr

/-- Counts of calls. -/
structure Coverage where
  modeled : Nat := 0
  fallback : Nat := 0
  faults : Nat := 0
  /-- The calls of each function. -/
  perFunction : SortedMap String Nat := .empty
  /-- Those about whose result nothing is known. -/
  fallbackFunctions : SortedMap String Nat := .empty

namespace Coverage

/-- Takes in a call of a function. -/
def record (coverage : Coverage) (function : String) (handling : Handling) : Coverage :=
  let coverage := { coverage with perFunction := coverage.perFunction.addCount function 1 }
  match handling with
  | .modeled => { coverage with modeled := coverage.modeled + 1 }
  | .fallback =>
    { coverage with
      fallback := coverage.fallback + 1
      fallbackFunctions := coverage.fallbackFunctions.addCount function 1 }
  | .fault => { coverage with faults := coverage.faults + 1 }

/-- The number of all calls. -/
def total (coverage : Coverage) : Nat := coverage.modeled + coverage.fallback + coverage.faults

/-- However a call went, it is one more call. -/
@[simp] theorem total_record (coverage : Coverage) (function : String) (handling : Handling) :
    (coverage.record function handling).total = coverage.total + 1 := by
  cases handling <;> simp only [record, total] <;> omega

@[simp] theorem perFunction_record (coverage : Coverage) (function : String)
    (handling : Handling) :
    (coverage.record function handling).perFunction = coverage.perFunction.addCount function 1 := by
  cases handling <;> rfl

/-- Adds the counts of one map to those of another. -/
def mergeCounts (counts more : SortedMap String Nat) : SortedMap String Nat :=
  more.entries.foldl (fun counts (function, count) => counts.addCount function count) counts

/-- The sum of two counts. -/
def merge (coverage more : Coverage) : Coverage where
  modeled := coverage.modeled + more.modeled
  fallback := coverage.fallback + more.fallback
  faults := coverage.faults + more.faults
  perFunction := mergeCounts coverage.perFunction more.perFunction
  fallbackFunctions := mergeCounts coverage.fallbackFunctions more.fallbackFunctions

end Coverage

end NativeFlow
