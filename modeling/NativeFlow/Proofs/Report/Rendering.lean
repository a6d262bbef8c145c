import NativeFlow.Proofs.Position
import NativeFlow.Proofs.Taint
import NativeFlow.Report.Rendering

namespace NativeFlow

/-!
# What is written tells what was meant

Nothing is lost when taint and notes are written: two that are written alike are equal.

* `Taint.toJson_inj`: taint is told apart by its flag, its origin and its categories.
* `rowsToJson_inj`, `extrasToJson_inj`: lists of notes, as long as the notes in them are told apart.
* `Note.toJson_inj`: notes are told apart at all depths.
-/

/-! ### Values that may be missing -/

/-- A value that may be missing is told apart if it is told apart where it is there, as long as none
is written as `null`. -/
theorem Json.ofOption_inj {α : Type} {encode : α → Json} {x y : Option α}
    (hencode : ∀ a, x = some a → ∀ b, encode a = encode b → a = b) (hnull : ∀ a, encode a ≠ .null)
    (h : ofOption encode x = ofOption encode y) : x = y := by
  cases x with
  | none =>
    cases y with
    | none => rfl
    | some b => exact absurd h.symm (hnull b)
  | some a =>
    cases y with
    | none => exact absurd h (hnull a)
    | some b => rw [hencode a rfl b h]

/-- A text that may be missing is told apart from one that is there. -/
theorem Json.ofOption_string_inj {x y : Option String}
    (h : ofOption .string x = ofOption .string y) : x = y :=
  ofOption_inj (fun _ _ _ => Json.string.inj) (fun _ => nofun) h

/-- Lists of texts are told apart. -/
theorem Json.strings_inj {texts texts' : List String} (h : strings texts = strings texts') :
    texts = texts' :=
  (List.map_inj_right fun _ _ => Json.string.inj).1 (Json.array.inj h)

/-! ### Taint -/

/-- Origins go by different names. -/
theorem Origin.name_inj {a b : Origin} (h : a.name = b.name) : a = b := by
  cases a <;> cases b <;> first | rfl | exact absurd h (by decide)

/-- Provenances go by different names. -/
theorem Provenance.name_inj {a b : Provenance} (h : a.name = b.name) : a = b := by
  cases a <;> cases b <;> first | rfl | exact absurd h (by decide)

/-- Taint that is written alike is equal. -/
theorem Taint.toJson_inj {t u : Taint} (h : t.toJson = u.toJson) : t = u := by
  simp only [toJson, Json.object.injEq, List.cons.injEq, Prod.mk.injEq, true_and, and_true,
    Json.bool.injEq] at h
  obtain ⟨hflag, horigin, hcategories⟩ := h
  have horigin' : t.origin? = u.origin? :=
    Json.ofOption_inj (fun _ _ _ hname => Origin.name_inj (Json.string.inj hname)) (fun _ => nofun)
      horigin
  have hcategories' : t.categories = u.categories := by
    apply SortedSet.ext
    intro category
    rw [← SortedSet.mem_toList, ← SortedSet.mem_toList, Json.strings_inj hcategories]
  apply eq_of_record_eq
  rw [record, record, hflag, horigin', hcategories']

/-! ### Notes -/

/-- A note is written like no other. -/
def Note.ToldApart (n : Note) : Prop := ∀ m : Note, n.toJson = m.toJson → n = m

/-- Rows of fields are told apart if their notes are. -/
theorem rowsToJson_inj {rows rows' : List (FieldKey × Note)} (hrows : ∀ row ∈ rows, row.2.ToldApart)
    (h : rowsToJson rows = rowsToJson rows') : rows = rows' := by
  -- Induction on the rows, with the other ones row by row beside them.
  induction rows generalizing rows' with
  | nil =>
    cases rows' with
    | nil => rfl
    | cons row' rest' => simp [rowsToJson] at h
  | cons row rest ih =>
    obtain ⟨⟨name, declaredType⟩, n⟩ := row
    cases rows' with
    | nil => simp [rowsToJson] at h
    | cons row' rest' =>
      obtain ⟨⟨name', declaredType'⟩, n'⟩ := row'
      simp only [rowsToJson, List.cons.injEq, Json.object.injEq, Prod.mk.injEq, true_and, and_true,
        Json.string.injEq] at h
      obtain ⟨⟨rfl, rfl, hnote⟩, hrest⟩ := h
      obtain ⟨hn, hothers⟩ := List.forall_mem_cons.1 hrows
      obtain rfl : n = n' := hn n' hnote
      rw [ih hothers hrest]

/-- A note is not written as `null`, so it differs from a missing one. -/
theorem Note.toJson_ne_null (n : Note) : n.toJson ≠ .null := by
  cases n <;> exact nofun

/-- An extra without a value is written as `null`. -/
theorem extrasToJson_eq (extras : List (String × Option Note)) :
    extrasToJson extras = extras.map fun extra => (extra.1, .ofOption Note.toJson extra.2) := by
  induction extras with
  | nil => rfl
  | cons extra rest ih =>
    obtain ⟨key, _ | n⟩ := extra
    · rw [extrasToJson, ih]
      rfl
    · rw [extrasToJson, ih]
      rfl

/-- Extras are told apart if their notes are. -/
theorem extrasToJson_inj {extras extras' : List (String × Option Note)}
    (hextras : ∀ extra ∈ extras, ∀ n, extra.2 = some n → n.ToldApart)
    (h : extrasToJson extras = extrasToJson extras') : extras = extras' := by
  rw [extrasToJson_eq, extrasToJson_eq] at h
  induction extras generalizing extras' with
  | nil => exact (List.map_eq_nil_iff.1 h.symm).symm
  | cons extra rest ih =>
    obtain ⟨hextra, hothers⟩ := List.forall_mem_cons.1 hextras
    cases extras' with
    | nil => cases h
    | cons extra' rest' =>
      obtain ⟨key, value⟩ := extra
      obtain ⟨key', value'⟩ := extra'
      simp only [List.map_cons, List.cons.injEq, Prod.mk.injEq] at h
      obtain ⟨⟨rfl, hvalue⟩, hrest⟩ := h
      -- A missing value is `null`, which no note is.
      have hvalue' : value = value' := Json.ofOption_inj hextra Note.toJson_ne_null hvalue
      rw [hvalue', ih hothers hrest]

/-- States of Intents are told apart if the notes in their extras are. -/
theorem iccToJson_inj {icc icc' : Option (IccState Note)}
    (hextras : ∀ state, icc = some state → ∀ extra ∈ state.extras, ∀ n, extra.2 = some n →
      n.ToldApart)
    (h : iccToJson icc = iccToJson icc') : icc = icc' := by
  cases icc with
  | none =>
    cases icc' with
    | none => rfl
    | some state' => cases h
  | some state =>
    cases icc' with
    | none => cases h
    | some state' =>
      obtain ⟨isIcc, activityName, extras⟩ := state
      obtain ⟨isIcc', activityName', extras'⟩ := state'
      simp only [iccToJson, Json.object.injEq, List.cons.injEq, Prod.mk.injEq, true_and, and_true,
        Json.bool.injEq] at h
      obtain ⟨rfl, hactivity, hextras'⟩ := h
      obtain rfl := Json.ofOption_string_inj hactivity
      obtain rfl : extras = extras' := extrasToJson_inj (hextras _ rfl) hextras'
      rfl

/-- The kinds of notes go by different names. -/
theorem Note.tag_of_toJson_eq {n m : Note} (h : n.toJson = m.toJson) : n.tag = m.tag := by
  cases n <;> cases m <;> first | rfl | simp [toJson] at h

/-- **Notes that are written alike are equal**, at all depths. -/
theorem Note.toJson_inj {n m : Note} (h : n.toJson = m.toJson) : n = m := by
  suffices htold : n.ToldApart from htold m h
  clear h m
  -- The notes right inside a note are told apart, and so is the note itself.
  induction n using Note.induction_levels with
  | level n hrows hextras =>
    intro m h
    -- Notes of different kinds are out of the question, so each kind is compared with itself.
    have htag := tag_of_toJson_eq h
    cases n with
    | classIdentity identity =>
      cases m with
      | classIdentity identity' =>
        obtain ⟨className, ⟨rows⟩⟩ := identity
        obtain ⟨className', ⟨rows'⟩⟩ := identity'
        simp only [toJson, Json.object.injEq, List.cons.injEq, Prod.mk.injEq, true_and, and_true,
          Json.string.injEq, Json.array.injEq] at h
        obtain ⟨rfl, hfields⟩ := h
        obtain rfl : rows = rows' := rowsToJson_inj hrows hfields
        rfl
      | _ => cases htag
    | object identity =>
      cases m with
      | object identity' =>
        obtain ⟨source, javaType, ⟨rows⟩, taint, icc⟩ := identity
        obtain ⟨source', javaType', ⟨rows'⟩, taint', icc'⟩ := identity'
        simp only [toJson, Json.object.injEq, List.cons.injEq, Prod.mk.injEq, true_and, and_true,
          Json.string.injEq, Json.array.injEq] at h
        obtain ⟨hsource, rfl, hfields, htaint, hicc⟩ := h
        obtain rfl : icc = icc' := by
          refine iccToJson_inj (fun state hstate => ?_) hicc
          subst hstate
          exact hextras
        obtain rfl : rows = rows' := rowsToJson_inj hrows hfields
        rw [Provenance.name_inj hsource, Taint.toJson_inj htaint]
      | _ => cases htag
    | string literal =>
      cases m with
      | string literal' =>
        obtain ⟨source, value⟩ := literal
        obtain ⟨source', value'⟩ := literal'
        simp only [toJson, Json.object.injEq, List.cons.injEq, Prod.mk.injEq, true_and, and_true,
          Json.string.injEq] at h
        rw [Provenance.name_inj h.1, h.2]
      | _ => cases htag
    | method identity =>
      cases m with
      | method identity' =>
        obtain ⟨className, methodName, signature⟩ := identity
        obtain ⟨className', methodName', signature'⟩ := identity'
        simp only [toJson, Json.object.injEq, List.cons.injEq, Prod.mk.injEq, true_and, and_true,
          Json.string.injEq] at h
        rw [h.1, h.2.1, h.2.2]
      | _ => cases htag
    | field identity =>
      cases m with
      | field identity' =>
        obtain ⟨className, fieldName, signature⟩ := identity
        obtain ⟨className', fieldName', signature'⟩ := identity'
        simp only [toJson, Json.object.injEq, List.cons.injEq, Prod.mk.injEq, true_and, and_true,
          Json.string.injEq] at h
        rw [h.1, h.2.1, h.2.2]
      | _ => cases htag
    | primitive value =>
      cases m with
      | primitive value' =>
        obtain ⟨source, javaType, taint⟩ := value
        obtain ⟨source', javaType', taint'⟩ := value'
        simp only [toJson, Json.object.injEq, List.cons.injEq, Prod.mk.injEq, true_and, and_true,
          Json.string.injEq] at h
        rw [Provenance.name_inj h.1, h.2.1, Taint.toJson_inj h.2.2]
      | _ => cases htag

end NativeFlow
