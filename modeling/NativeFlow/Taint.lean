import NativeFlow.SortedMap

namespace NativeFlow

/-!
# Taint

* `Origin`: where the taint of a value comes from. A report calls it the `source_kind`.
* `Taint`: whether a value may hold sensitive data, and of which categories.
* `Taint.absorb`: the join of two records. It never clears taint and keeps the origin it has.
-/

/-- The category of data that is sensitive for where it is found rather than for what it is. -/
def sensitiveInfo : String := "SENSITIVE_INFO"

/-- Where taint comes from: the kind of its source. -/
inductive Origin where
  | api
  | argument
  | argumentField
  | classField
  deriving DecidableEq, Repr

/-- The name of an origin. -/
def Origin.name : Origin → String
  | .api => "api"
  | .argument => "argument"
  | .argumentField => "argument_field"
  | .classField => "class_field"

/-- The taint of a value: none, or an origin with the categories of the data. -/
inductive Taint where
  | clean
  | tainted (origin : Origin) (categories : SortedSet String)

namespace Taint

instance : Inhabited Taint := ⟨.clean⟩

/-- Whether the value may hold sensitive data. -/
def isTainted : Taint → Bool
  | .clean => false
  | .tainted _ _ => true

/-- The origin of the taint. -/
def origin? : Taint → Option Origin
  | .clean => none
  | .tainted origin _ => some origin

/-- The categories of the data. -/
def categories : Taint → SortedSet String
  | .clean => .empty
  | .tainted _ categories => categories

/-- The taint of the given origin whose categories are listed. -/
def of (origin : Origin) (categories : List String) : Taint :=
  .tainted origin (.ofList categories)

/-- The join of two records: tainted when one of them is, with the categories of both and the
origin of the first that has one. -/
def absorb : Taint → Taint → Taint
  | taint, .clean => taint
  | .clean, taint => taint
  | .tainted origin categories, .tainted _ categories' =>
    .tainted origin (categories.union categories')

@[simp] theorem absorb_clean (taint : Taint) : taint.absorb .clean = taint := by
  cases taint <;> rfl

@[simp] theorem clean_absorb (taint : Taint) : clean.absorb taint = taint := by
  cases taint <;> rfl

/-- A join is tainted as soon as one of its sides is. -/
@[simp] theorem isTainted_absorb (taint taint' : Taint) :
    (taint.absorb taint').isTainted = (taint.isTainted || taint'.isTainted) := by
  cases taint <;> cases taint' <;> rfl

/-- A join has the categories of both sides. -/
@[simp] theorem mem_categories_absorb {category : String} (taint taint' : Taint) :
    category ∈ (taint.absorb taint').categories ↔
      category ∈ taint.categories ∨ category ∈ taint'.categories := by
  cases taint <;> cases taint' <;> simp [absorb, categories]

end Taint

end NativeFlow
