import NativeFlow.Proofs.Objects
import NativeFlow.Proofs.Taint

namespace NativeFlow

/-!
# The join of taint

Taint is only ever joined: a value that is made from others has the taint of all of them. The join
takes the flags and the categories together, in any order, and keeps the first origin.

* `Taint.isTainted_foldl_absorb`, `Taint.mem_categories_foldl_absorb`,
  `Taint.origin?_foldl_absorb`: the join of several records.
* `joinTaint_perm`: the order of some values makes no difference to the flag and the categories.
* `Function.call_constructor`: the object that a constructor makes has the join of its arguments.
* `Taint.absorb_joins`: the laws together with what they say about constructors.
-/

namespace Taint

/-! ### Several records -/

/-- A join of several records is tainted if one of them is. -/
theorem isTainted_foldl_absorb (taints : List Taint) (t : Taint) :
    (taints.foldl absorb t).isTainted = (t.isTainted || taints.any isTainted) := by
  induction taints generalizing t with
  | nil => simp
  | cons u taints ih => simp [ih, Bool.or_assoc]

/-- A join of several records has the categories of all of them. -/
theorem mem_categories_foldl_absorb {category : String} (taints : List Taint) (t : Taint) :
    category ∈ (taints.foldl absorb t).categories ↔
      category ∈ t.categories ∨ ∃ u ∈ taints, category ∈ u.categories := by
  induction taints generalizing t with
  | nil => simp
  | cons u taints ih => simp [ih, or_assoc]

/-- The origin of a join is that of the first record with taint, for all others have none. -/
theorem origin?_foldl_absorb (taints : List Taint) (t : Taint) :
    (taints.foldl absorb t).origin? = t.origin?.or ((taints.find? isTainted).bind origin?) := by
  induction taints generalizing t with
  | nil => simp
  | cons u taints ih =>
    rw [List.foldl_cons, ih, origin?_absorb, Option.or_assoc, List.find?_cons]
    -- Without taint there is no origin, and with taint there is one.
    cases u <;> rfl

end Taint

/-- The taint that some values are known to have, in their order. -/
def knownTaint (values : List Value) : List Taint := values.filterMap Value.taint?

/-- Some values are tainted together if one of them is known to be. -/
theorem isTainted_joinTaint (values : List Value) :
    (joinTaint values).isTainted = (knownTaint values).any Taint.isTainted :=
  Taint.isTainted_foldl_absorb (knownTaint values) .clean

/-- The categories are those of all tainted values. -/
theorem mem_categories_joinTaint {values : List Value} {category : String} :
    category ∈ (joinTaint values).categories ↔
      ∃ t ∈ knownTaint values, t.isTainted = true ∧ category ∈ t.categories := by
  have hjoin : category ∈ (joinTaint values).categories ↔ _ :=
    Taint.mem_categories_foldl_absorb (knownTaint values) .clean
  rw [hjoin]
  constructor
  · rintro (hclean | ⟨t, ht, hmem⟩)
    · exact absurd hclean SortedSet.not_mem_empty
    · exact ⟨t, ht, Taint.isTainted_of_mem hmem, hmem⟩
  · rintro ⟨t, ht, -, hmem⟩
    exact .inr ⟨t, ht, hmem⟩

/-- The origin is that of the first tainted value. -/
theorem origin?_joinTaint (values : List Value) :
    (joinTaint values).origin? =
      ((knownTaint values).find? Taint.isTainted).bind Taint.origin? := by
  have hjoin : (joinTaint values).origin? = _ :=
    Taint.origin?_foldl_absorb (knownTaint values) .clean
  rw [hjoin]
  rfl

/-- **Several values.** Their order makes no difference to the flag and the categories of their
join. -/
theorem joinTaint_perm {values values' : List Value} (h : values.Perm values') :
    (joinTaint values).isTainted = (joinTaint values').isTainted ∧
      (joinTaint values).categories = (joinTaint values').categories := by
  have hknown : (knownTaint values).Perm (knownTaint values') := h.filterMap Value.taint?
  constructor
  · rw [isTainted_joinTaint, isTainted_joinTaint, hknown.any_eq]
  · apply SortedSet.ext
    intro category
    rw [mem_categories_joinTaint, mem_categories_joinTaint]
    exact exists_congr fun t => and_congr_left' hknown.mem_iff

/-! ### Constructors -/

namespace Interface

/-- The functions that make an object by a constructor. -/
def constructorNames : List String := ["NewObject", "NewObjectV", "NewObjectA"]

/-- All of `constructorNames` make an object by a constructor. -/
theorem behaviour_of_constructor {f : Function} (hf : f ∈ functions)
    (hname : f.name ∈ constructorNames) : f.behaviour = .newObject := by
  obtain ⟨passing, hpassing⟩ : ∃ passing, f.name = newObjectName passing := by
    simp only [constructorNames, List.mem_cons, List.not_mem_nil, or_false] at hname
    rcases hname with hname | hname | hname
    · exact ⟨.variadic, hname⟩
    · exact ⟨.vaList, hname⟩
    · exact ⟨.array, hname⟩
  exact behaviour_of_newObjectName hf hpassing

end Interface

/-- Other arguments for the constructor leave the class that is asked for as it is. -/
theorem Call.classArg?_reordered {c : Call} {className : String}
    (hclass : c.classArg? 0 = some className) (rest : List Value) :
    ({ c with args := c.args.take 2 ++ rest } : Call).classArg? 0 = some className := by
  obtain ⟨machine, catalog, natives, args⟩ := c
  cases args with
  | nil => cases hclass
  | cons v more => exact hclass

/-- The arguments for the constructor are those from the third on, in any order. -/
theorem drop_reordered {args rest : List Value} (h : rest.Perm (args.drop 2)) :
    (args.take 2 ++ rest).drop 2 = rest := by
  match args with
  | [] | [_] =>
    -- There is nothing to be put into another order.
    rw [h.eq_nil]
    rfl
  | _ :: _ :: _ => rfl

/-- A constructor that is called on a class makes an object of that class, with the taint of its
arguments. -/
theorem Function.call_constructor {f : Function} (hf : f ∈ Interface.functions)
    (hname : f.name ∈ Interface.constructorNames) {c : Call} {className : String}
    (hclass : c.classArg? 0 = some className) :
    ∃ reply w o, f.call c = .ok reply ∧ reply.value? = some w ∧ w.object? = some o ∧
      o.javaType = className ∧ o.taint = joinTaint (c.args.drop 2) := by
  obtain ⟨reply, w, hcall, -, hvalue, hnotes⟩ := Function.call_result
    (Interface.behaviour_of_constructor hf hname) (by decide) (by decide) c
  rw [Behaviour.effect, Call.newObject_notes hclass] at hnotes
  exact ⟨reply, w, _, hcall, hvalue, by rw [Value.object?, hnotes]; rfl, rfl, rfl⟩

/-- **Merging taint is a join.** Take taint apart into a flag, an origin and a set of categories.
The records of this form that make sense are those of taint, and each is that of one taint only. On
them the fieldwise join `Taint.Record.absorb`, which passes over records without taint, is the join
of taint. It keeps records that make sense, it is associative and idempotent, the default record is
its identity on both sides, it clears no flag and drops no category, and the order makes no
difference but to the origin. In terms of taint,

* the join of two has a record that makes sense: the flags and the categories are taken together,
  and the first origin stays;
* joins may be grouped in any way, and joining anything with itself, or with no taint on either
  side, changes nothing;
* a join clears no flag and drops no category;
* the order of the two makes no difference to the flag and the categories.

Hence a constructor that is called on a class, with whatever arguments, returns an object of that
class. The object is tainted if one of the arguments from the third on is, it has the categories of
all tainted ones among them, and it has the origin of the first. Its flag and its categories are the
same in whatever order these arguments come. -/
theorem Taint.absorb_joins :
    (∀ r : Record, r.WellFormed ↔ ∃ t : Taint, t.record = r ∧ ∀ u : Taint, u.record = r → u = t) ∧
    (∀ t u : Taint, (t.absorb u).record = t.record.absorb u.record) ∧
    (∀ r s u : Record, r.WellFormed → s.WellFormed → u.WellFormed →
      (r.absorb s).WellFormed ∧ (r.absorb s).absorb u = r.absorb (s.absorb u) ∧
      r.absorb r = r ∧ r.absorb {} = r ∧ Record.absorb {} r = r ∧
      (r.isTainted = true ∨ s.isTainted = true → (r.absorb s).isTainted = true) ∧
      (∀ category, category ∈ r.categories ∨ category ∈ s.categories →
        category ∈ (r.absorb s).categories) ∧
      (r.absorb s).isTainted = (s.absorb r).isTainted ∧
      (r.absorb s).categories = (s.absorb r).categories) ∧
    (∀ t u : Taint, (t.absorb u).record.WellFormed ∧ (t.absorb u).record =
      ⟨t.isTainted || u.isTainted, t.origin?.or u.origin?, t.categories.union u.categories⟩) ∧
    (∀ t u w : Taint, (t.absorb u).absorb w = t.absorb (u.absorb w)) ∧
    (∀ t : Taint, t.absorb t = t ∧ t.absorb .clean = t ∧ clean.absorb t = t) ∧
    (∀ t u : Taint,
      (t.isTainted = true ∨ u.isTainted = true → (t.absorb u).isTainted = true) ∧
      ∀ category, category ∈ t.categories ∨ category ∈ u.categories →
        category ∈ (t.absorb u).categories) ∧
    (∀ t u : Taint, (t.absorb u).isTainted = (u.absorb t).isTainted ∧
      (t.absorb u).categories = (u.absorb t).categories) ∧
    ∀ f ∈ Interface.functions, f.name ∈ ["NewObject", "NewObjectV", "NewObjectA"] →
      ∀ (c : Call) (className : String), c.classArg? 0 = some className →
        ∃ reply w o, f.call c = .ok reply ∧ reply.value? = some w ∧ w.object? = some o ∧
          o.javaType = className ∧
          o.taint.isTainted = (knownTaint (c.args.drop 2)).any isTainted ∧
          (∀ category, category ∈ o.taint.categories ↔
            ∃ t ∈ knownTaint (c.args.drop 2), t.isTainted = true ∧ category ∈ t.categories) ∧
          o.taint.origin? = ((knownTaint (c.args.drop 2)).find? isTainted).bind origin? ∧
          ∀ rest, rest.Perm (c.args.drop 2) →
            ∃ reply' w' o', f.call { c with args := c.args.take 2 ++ rest } = .ok reply' ∧
              reply'.value? = some w' ∧ w'.object? = some o' ∧
              o'.taint.isTainted = o.taint.isTainted ∧
              o'.taint.categories = o.taint.categories := by
  refine ⟨fun r => ?_, record_absorb, fun r s u hr hs hu => ?_,
    fun t u => ⟨wellFormed_record _, record_absorb_eq t u⟩, absorb_assoc,
    fun t => ⟨absorb_self t, absorb_clean t, clean_absorb t⟩, fun t u => ?_, fun t u => ?_, ?_⟩
  -- There is taint with the record if it makes sense, and there is no other.
  · rw [exists_record_iff]
    refine exists_congr fun t => ?_
    constructor
    · exact fun h => ⟨h, fun u hu => eq_of_record_eq (hu.trans h.symm)⟩
    · exact fun h => h.1
  · refine ⟨hr.absorb hs, Record.absorb_assoc hr hs hu, Record.absorb_self hr, rfl,
      Record.default_absorb hr, ?_, ?_, ?_, ?_⟩
    · simp [Record.isTainted_absorb]
    · simp [Record.categories_absorb hr hs]
    · rw [Record.isTainted_absorb, Record.isTainted_absorb, Bool.or_comm]
    · rw [Record.categories_absorb hr hs, Record.categories_absorb hs hr]
      exact SortedSet.ext fun category => by simp [or_comm]
  · simp
  · exact ⟨by simp [Bool.or_comm], categories_absorb_comm t u⟩
  · intro f hf hname c className hclass
    obtain ⟨reply, w, o, hcall, hvalue, ho, htype, htaint⟩ := f.call_constructor hf hname hclass
    refine ⟨reply, w, o, hcall, hvalue, ho, htype, ?_, fun category => ?_, ?_, fun rest hrest => ?_⟩
    · rw [htaint, isTainted_joinTaint]
    · rw [htaint, mem_categories_joinTaint]
    · rw [htaint, origin?_joinTaint]
    · obtain ⟨reply', w', o', hcall', hvalue', ho', -, htaint'⟩ :=
        f.call_constructor hf hname (Call.classArg?_reordered hclass rest)
      have hargs : (c.args.take 2 ++ rest).drop 2 = rest := drop_reordered hrest
      have hjoin : o'.taint = joinTaint rest := by rw [htaint', hargs]
      obtain ⟨hflag, hcategories⟩ := joinTaint_perm hrest
      rw [← htaint, ← hjoin] at hflag hcategories
      exact ⟨reply', w', o', hcall', hvalue', ho', hflag, hcategories⟩

namespace Call

/-- The arguments of a constructor: one without taint, a tainted number and a tainted object. -/
def parcelArguments : List Value := [
  ⟨3, 64, [.object (.ofType .argument "Label")]⟩,
  ⟨4, 32, [.primitive { source := .argument, javaType := "int", taint := .of .argument ["PIN"] }]⟩,
  ⟨5, 64, [.object { source := .argument, javaType := "Letter", taint := .of .api ["SMS"] }]⟩]

/-- A call that makes a parcel from them. -/
def newParcel (arguments : List Value) : Call where
  machine := { pointerBits := 64 }
  catalog := {}
  natives := {}
  args := ⟨1, 64, [.classIdentity { className := "Parcel" }]⟩ :: ⟨2, 64, []⟩ :: arguments

/-- The parcel has the categories of the number and of the object. Its origin is that of the number,
which comes first, and in the opposite order it has the same categories. -/
theorem absorb_joins_newParcel :
    ∃ f ∈ Interface.functions, f.name = "NewObjectA" ∧
      ∃ reply w o, f.call (newParcel parcelArguments) = .ok reply ∧ reply.value? = some w ∧
        w.object? = some o ∧ o.javaType = "Parcel" ∧ o.taint.isTainted = true ∧
        "PIN" ∈ o.taint.categories ∧ "SMS" ∈ o.taint.categories ∧
        o.taint.origin? = some .argument ∧
        ∃ reply' w' o', f.call (newParcel parcelArguments.reverse) = .ok reply' ∧
          reply'.value? = some w' ∧ w'.object? = some o' ∧
          o'.taint.categories = o.taint.categories := by
  obtain ⟨f, hf, hname, -⟩ := Interface.exists_of_row (i := 30) rfl
  obtain ⟨-, -, -, -, -, -, -, -, hconstructor⟩ := Taint.absorb_joins
  obtain ⟨reply, w, o, hcall, hvalue, ho, htype, hflag, hcategories, horigin, hperm⟩ :=
    hconstructor f hf (by rw [hname]; decide) (newParcel parcelArguments) "Parcel" rfl
  obtain ⟨reply', w', o', hcall', hvalue', ho', -, hsame⟩ :=
    hperm parcelArguments.reverse (List.reverse_perm _)
  refine ⟨f, hf, hname, reply, w, o, hcall, hvalue, ho, htype, hflag, ?_, ?_, horigin, reply', w',
    o', hcall', hvalue', ho', hsame⟩
  · exact (hcategories "PIN").2 ⟨.of .argument ["PIN"], .tail _ (.head _), rfl,
      SortedSet.mem_ofList.2 (.head _)⟩
  · exact (hcategories "SMS").2 ⟨.of .api ["SMS"], .tail _ (.tail _ (.head _)), rfl,
      SortedSet.mem_ofList.2 (.head _)⟩

end Call

end NativeFlow
