import NativeFlow.SortedMap
import NativeFlow.Text.Blank
import NativeFlow.Text.Numeral
import NativeFlow.Text.Utf8

namespace NativeFlow

/-!
# Taint catalogs

A catalog lists methods that hand out sensitive data and methods that must not be given any. Each
line names a method and marks it as one or the other; the first entry of a method counts.

* `Classification`: the taint class of a method, that is, what a catalog says about it.
* `Catalog.Entry.ofLine?`: the entry on a line. Blank lines, comments, lines without a marker and
  sinks with a position that is no number have none.
* `Catalog.ofText`, `Catalog.ofBytes`: the catalog that a text or a file holds.
* `Catalog.classify`: what a catalog says about a method, by its full signature.
-/

/-- The arguments that a sink watches. -/
inductive SinkSelector where
  | all
  | position (index : Nat)
  deriving DecidableEq

/-- Whether the argument at a position is watched. -/
def SinkSelector.selects : SinkSelector → Nat → Bool
  | .all, _ => true
  | .position index, argument => index = argument

/-- What a catalog says about a method. -/
inductive Classification where
  | source (categories : SortedSet String)
  | sink (selector : SinkSelector)

/-- What is known about methods, by their full signature. -/
structure Catalog where
  entries : SortedMap String Classification := .empty

namespace Catalog

/-- The mark of a source. -/
def sourceMarker : String := "_SOURCE_"

/-- The mark of a sink. -/
def sinkMarker : String := "_SINK_"

/-- The sign between a category and a marker. -/
def arrow : String := "->"

/-- One past the largest position that a sink can name. -/
def positionBound : Nat := 0x10000000000000000

/-- The classification that the fields of a line make. A source takes its category from the second
field, a sink its position from the field behind the first marker. -/
def classificationOfFields? (fields : List String) : Option Classification :=
  if sourceMarker ∈ fields then
    -- Where the second field is the arrow or the marker, there is no category.
    some (.source (.ofList (fields[1]?.toList.filter fun field =>
      field ≠ arrow && field ≠ sourceMarker)))
  else
    match fields.dropWhile (· ≠ sinkMarker) with
    | [] => none
    -- A sink without a position watches all of its arguments.
    | [_] => some (.sink .all)
    | _ :: position :: _ =>
      (Numeral.ofText? positionBound position).map fun index => .sink (.position index)

/-- A method and what a line says about it. -/
structure Entry where
  signature : String
  classification : Classification

/-- The entry on a line. -/
def Entry.ofLine? (line : String) : Option Entry :=
  match Blank.fields line with
  | [] => none
  | signature :: rest =>
    if signature.toList.head? = some '#' then none
    else (classificationOfFields? (signature :: rest)).map fun classification =>
      { signature, classification }

/-- Adds an entry, unless the method has one already. -/
def add (catalog : Catalog) (entry : Entry) : Catalog :=
  if catalog.entries.contains entry.signature then catalog
  else ⟨catalog.entries.insert entry.signature entry.classification⟩

/-- The catalog whose lines are given. -/
def ofLines (lines : List String) : Catalog :=
  (lines.filterMap Entry.ofLine?).foldl add {}

/-- The lines of a sequence, which end at each element that is `newline`. -/
def splitLines {α : Type} [DecidableEq α] (newline : α) (text : List α) : List (List α) :=
  -- The finished lines and the current one are kept in reverse.
  let step := fun (state : List (List α) × List α) c =>
    if c = newline then (state.2.reverse :: state.1, []) else (state.1, c :: state.2)
  let (done, last) := text.foldl step ([], [])
  (last.reverse :: done).reverse

/-- The catalog that a text holds. -/
def ofText (text : String) : Catalog :=
  ofLines ((splitLines '\n' text.toList).map String.ofList)

/-- The catalog that a file holds, or the number of the first line that is not UTF-8. -/
def ofBytes (bytes : List UInt8) : Except Nat Catalog :=
  let lines := (splitLines 10 bytes).map Utf8.decode?
  -- Lines without an entry have to be UTF-8 too.
  match lines.findIdx? Option.isNone with
  | some index => .error (index + 1)
  | none => .ok (ofLines (lines.filterMap id))

/-- What a catalog says about a method. -/
def classify (catalog : Catalog) (signature : String) : Option Classification :=
  catalog.entries.find? signature

/-- The number of methods that a catalog lists. -/
def size (catalog : Catalog) : Nat := catalog.entries.size

/-- An entry that is there already stays as it is. -/
@[simp] theorem classify_add (catalog : Catalog) (entry : Entry) (signature : String) :
    (catalog.add entry).classify signature =
      (catalog.classify signature).or
        (if signature = entry.signature then some entry.classification else none) := by
  cases h : catalog.entries.find? entry.signature with
  | none =>
    have hadd : catalog.add entry =
        ⟨catalog.entries.insert entry.signature entry.classification⟩ := by
      simp [add, SortedMap.contains, h]
    rw [hadd]
    by_cases hs : signature = entry.signature
    · subst hs
      simp [classify, h]
    · simp [classify, hs]
  | some classification =>
    have hadd : catalog.add entry = catalog := by simp [add, SortedMap.contains, h]
    rw [hadd]
    by_cases hs : signature = entry.signature
    · subst hs
      simp [classify, h]
    · simp [hs]

end Catalog

end NativeFlow
