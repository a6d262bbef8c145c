import Mathlib.Data.List.Forall2
import NativeFlow.Proofs.Json.Token

namespace NativeFlow.Reader

open Json (Blank Unquoted Quoted Listed Enclosed Member Spelled Kept)

/-!
# Values are read from all their spellings

* `Reads`, `ReadsMember`: a reader that reads the same from every spelling of a value, at the front
  of a text or behind the name of a member.
* `Builds`: a reader of members that builds up its result member by member.
* `items_of_enclosed`, `members_of_enclosed`: the parts of an array and of an object, one by one.
* `reads_value`: any value that is not nested too deep.
* `reads_natural`, `reads_text`, `reads_array`, `reads_object`: values of one kind.
-/

variable {α β σ : Type} {text rest : List Char}

/-! ### Arrays and objects -/

/-- A reader that reads `a` from every spelling of a value. -/
def Reads (reader : Reader α) (json : Json) (a : α) : Prop :=
  ∀ blanks text rest, Blank blanks → Spelled json text → Separated rest →
    reader (blanks ++ (text ++ rest)) = .ok (a, rest)

/-- White space, or at once the comma or the bracket: a value has ended here. -/
theorem separated_of_blank {blanks : List Char} {c : Char} (h : Blank blanks)
    (hc : c ∈ [',', ']', '\x7d']) (rest : List Char) : Separated (blanks ++ c :: rest) := by
  cases blanks with
  | nil => exact ⟨c, rest, rfl, List.mem_append_right [' ', '\n', '\t', '\r'] hc⟩
  | cons b blanks =>
    have hb := h b List.mem_cons_self
    exact ⟨b, blanks ++ c :: rest, rfl, List.mem_append_left [',', ']', '\x7d'] hb⟩

/-- What follows a part of a list begins with a separator. -/
theorem separated_of_listed {P : β → List Char → Prop} {close : Char} {xs : List β}
    (h : Listed P close xs text) (hclose : close ∈ [']', '\x7d']) (rest : List Char) :
    Separated (text ++ rest) := by
  cases h with
  | close hblanks =>
    rw [List.append_assoc]
    exact separated_of_blank hblanks (List.mem_cons_of_mem _ hclose) rest
  | next hbefore hbehind hx hxs =>
    rw [List.append_assoc]
    exact separated_of_blank hbefore List.mem_cons_self _

/-- A value begins with a character that is neither white space nor the end of an array. -/
theorem head_of_spelled {json : Json} (h : Spelled json text) :
    ∃ c tail, text = c :: tail ∧ isSpace c = false ∧ c ≠ ']' := by
  cases h with
  | natural n =>
    obtain ⟨c, tail, hdigits, hc⟩ := exists_toDigits n
    obtain ⟨_, hspace, hclose, _⟩ := of_mem_decimalDigits hc
    exact ⟨c, tail, hdigits, hspace, hclose⟩
  | string h =>
    cases h with
    | mk h => exact ⟨'"', _, rfl, by decide, by decide⟩
  | null => exact ⟨'n', _, rfl, by decide, by decide⟩
  | yes => exact ⟨'t', _, rfl, by decide, by decide⟩
  | no => exact ⟨'f', _, rfl, by decide, by decide⟩
  | array h => exact ⟨'[', _, rfl, by decide, by decide⟩
  | object h => exact ⟨'\x7b', _, rfl, by decide, by decide⟩

theorem length_lt_close (blanks : List Char) (close : Char) (rest : List Char) :
    rest.length < (blanks ++ [close] ++ rest).length := by
  simp only [List.length_append, List.length_singleton]
  omega

/-- No value is spelled by the empty text, so every round of `items` reads something. -/
theorem length_pos_of_spelled {json : Json} (h : Spelled json text) : 0 < text.length := by
  obtain ⟨c, tail, rfl, _⟩ := head_of_spelled h
  exact Nat.succ_pos _

/-- `nextItem` at the bracket that ends an array. -/
theorem nextItem_close {blanks : List Char} (h : Blank blanks) (first : Bool) (rest : List Char) :
    nextItem first (blanks ++ ']' :: rest) = .ok (false, rest) := by
  rw [nextItem, bind_of_ok (token?_of_blank h (by decide) rest)]
  rfl

/-- `nextItem` in front of the first item, which comes without a comma. -/
theorem nextItem_first {blanks : List Char} {json : Json} (h : Blank blanks)
    (hjson : Spelled json text) (rest : List Char) :
    nextItem true (blanks ++ (text ++ rest)) = .ok (true, text ++ rest) := by
  obtain ⟨c, tail, rfl, hspace, hclose⟩ := head_of_spelled hjson
  rw [nextItem, List.cons_append, bind_of_ok (token?_of_blank h hspace (tail ++ rest))]
  -- No bracket follows, so the last case is the one that applies.
  simp only
  rfl

/-- `nextItem` in front of a later item, which comes behind a comma. -/
theorem nextItem_next {before behind : List Char} {json : Json} (hbefore : Blank before)
    (hbehind : Blank behind) (hjson : Spelled json text) (rest : List Char) :
    nextItem false (before ++ ',' :: (behind ++ (text ++ rest))) = .ok (true, text ++ rest) := by
  obtain ⟨c, tail, rfl, hspace, hclose⟩ := head_of_spelled hjson
  rw [nextItem, bind_of_ok (token?_of_blank hbefore (by decide) _)]
  -- The comma settles all the cases at once.
  change (advance >>= fun _ => token? >>= _) _ = _
  rw [bind_of_ok (advance_cons _ _), List.cons_append,
    bind_of_ok (token?_of_blank hbehind hspace (tail ++ rest))]
  simp only
  rfl

/-- One round of `items`: a value is read and put in front of those that have been read before. -/
theorem items_step {item : Reader α} {json : Json} {a : α} {before : List Char} (position : Nat)
    (hitem : Reads item json a) (hjson : Spelled json text) (hrest : Separated rest)
    (hnext : nextItem (position == 0) before = .ok (true, text ++ rest)) (done : List α) :
    items.step item (position, done) before = .ok (.inl (position + 1, a :: done), rest) := by
  have hread : within (.index position) item (text ++ rest) = .ok (a, rest) :=
    within_of_ok (hitem [] text rest Json.blank_nil hjson hrest)
  rw [items.step, bind_of_ok hnext]
  exact bind_of_ok hread

/-- The last round of `items`: the bracket is read, and the values are put in order. -/
theorem items_close {item : Reader α} {blanks : List Char} (h : Blank blanks) (position : Nat)
    (done : List α) (rest : List Char) :
    items.step item (position, done) (blanks ++ [']'] ++ rest) = .ok (.inr done.reverse, rest) := by
  rw [items.step, List.append_assoc]
  exact bind_of_ok (nextItem_close h _ rest)

/-- The items after the first one, read one by one. -/
theorem rounds_items {item : Reader α} {jsons : List Json} {as : List α}
    (hitems : List.Forall₂ (Reads item) jsons as) (h : Listed Spelled ']' jsons text)
    (position : Nat) (done : List α) (rest : List Char) :
    Rounds (items.step item) (position + 1, done) (text ++ rest) (done.reverse ++ as) rest := by
  -- Only the first item comes without a comma, so the position is never zero here.
  induction hitems generalizing text position done with
  | nil =>
    cases h with
    | close hblanks =>
      rw [List.append_nil]
      exact .last (items_close hblanks _ done rest) (length_lt_close _ _ rest)
  | @cons json a jsons as hitem _ ih =>
    cases h with
    | next hbefore hbehind hjson hlisted =>
      have hseparated := separated_of_listed hlisted (by decide) rest
      have hstep := items_step (position + 1) hitem hjson hseparated
        (nextItem_next hbefore hbehind hjson _) done
      have hrounds := ih hlisted (position + 1) (a :: done)
      rw [List.reverse_cons, List.append_assoc] at hrounds
      simp only [List.append_assoc, List.cons_append]
      exact .round hstep (by simp only [List.length_append, List.length_cons]; omega) hrounds

/-- **The items of an array are read one by one,** whatever stands behind the array. -/
theorem items_of_enclosed {item : Reader α} {jsons : List Json} {as : List α}
    (hitems : List.Forall₂ (Reads item) jsons as) (h : Enclosed Spelled ']' jsons text)
    (rest : List Char) : items item (text ++ rest) = .ok (as, rest) := by
  refine Rounds.repeatUntil ?_
  cases h with
  | empty hblanks =>
    cases hitems
    exact .last (items_close hblanks 0 [] rest) (length_lt_close _ _ rest)
  | parts hblanks hjson hlisted =>
    cases hitems with
    | cons hitem hitems =>
      have hseparated := separated_of_listed hlisted (by decide) rest
      have hstep := items_step 0 hitem hjson hseparated
        (nextItem_first hblanks hjson _) []
      have hlength := length_pos_of_spelled hjson
      simp only [List.append_assoc]
      exact .round hstep (by simp only [List.length_append]; omega)
        (rounds_items hitems hlisted 0 _ rest)

/-- A reader that reads `a` from behind the name of a member, for every spelling of its value. -/
def ReadsMember (reader : Reader α) (json : Json) (a : α) : Prop :=
  ∀ before behind text rest, Blank before → Blank behind → Spelled json text → Separated rest →
    reader (before ++ ':' :: (behind ++ (text ++ rest))) = .ok (a, rest)

/-- A reader of members that builds up its result member by member: `draft` tells what it has once
it has read some of the members. -/
def Builds (member : σ → String → Reader σ) (draft : List (String × Json) → σ)
    (all : List (String × Json)) : Prop :=
  ∀ done m left, all = done ++ m :: left →
    ReadsMember (member (draft done) m.1) m.2 (draft (done ++ [m]))

/-- `nextName` at the brace that ends an object. -/
theorem nextName_close {blanks : List Char} (h : Blank blanks) (first : Bool) (rest : List Char) :
    nextName first (blanks ++ '\x7d' :: rest) = .ok (none, rest) := by
  rw [nextName, bind_of_ok (token?_of_blank h (by decide) rest)]
  rfl

/-- `nextName` reads the name of the first member. -/
theorem nextName_first {blanks : List Char} {name : String} (h : Blank blanks)
    (hname : Quoted name text) (rest : List Char) :
    nextName true (blanks ++ (text ++ rest)) = .ok (some name, rest) := by
  cases hname with
  | mk hbody =>
    rw [nextName, List.cons_append, bind_of_ok (token?_of_blank h (by decide) _)]
    change (advance >>= fun _ => stringBody >>= _) _ = _
    rw [bind_of_ok (advance_cons _ _)]
    exact bind_of_ok (stringBody_of_unquoted hbody rest)

/-- `nextName` reads the name of a later member, behind a comma. -/
theorem nextName_next {before behind : List Char} {name : String} (hbefore : Blank before)
    (hbehind : Blank behind) (hname : Quoted name text) (rest : List Char) :
    nextName false (before ++ ',' :: (behind ++ (text ++ rest))) = .ok (some name, rest) := by
  cases hname with
  | mk hbody =>
    rw [nextName, bind_of_ok (token?_of_blank hbefore (by decide) _)]
    -- The comma has only been looked at: it is read, and the quote is looked for.
    change (advance >>= fun _ => token? >>= _) _ = _
    rw [bind_of_ok (advance_cons _ _), List.cons_append,
      bind_of_ok (token?_of_blank hbehind (by decide) _)]
    change (advance >>= fun _ => stringBody >>= _) _ = _
    rw [bind_of_ok (advance_cons _ _)]
    exact bind_of_ok (stringBody_of_unquoted hbody rest)

/-- The last round of `members`: the brace is read, and the state is the result. -/
theorem members_close {member : σ → String → Reader σ} {blanks : List Char} (h : Blank blanks)
    (first : Bool) (s : σ) (rest : List Char) :
    members.step member (first, s) (blanks ++ ['\x7d'] ++ rest) = .ok (.inr s, rest) := by
  rw [members.step, List.append_assoc]
  exact bind_of_ok (nextName_close h first rest)

/-- One round of `members`: behind its name a member changes the state from `s` to `s'`. -/
theorem members_step {member : σ → String → Reader σ} {s s' : σ} {name : String} {json : Json}
    {start before behind : List Char} {first : Bool}
    (hmember : ReadsMember (member s name) json s') (hbefore : Blank before)
    (hbehind : Blank behind) (hvalue : Spelled json text) (hrest : Separated rest)
    (hname : nextName first start =
      .ok (some name, before ++ ':' :: (behind ++ (text ++ rest)))) :
    members.step member (first, s) start = .ok (.inl (false, s'), rest) := by
  rw [members.step, bind_of_ok hname]
  exact bind_of_ok (hmember before behind text rest hbefore hbehind hvalue hrest)

/-- The members after those in `done`, read one by one. -/
theorem rounds_members {member : σ → String → Reader σ} {draft : List (String × Json) → σ}
    {all done left : List (String × Json)} (hmember : Builds member draft all)
    (hall : all = done ++ left) (h : Listed (Member Spelled) '\x7d' left text) (rest : List Char) :
    Rounds (members.step member) (false, draft done) (text ++ rest) (draft all) rest := by
  -- What is left shrinks while what is done grows, and together they stay all the members.
  induction left generalizing text done with
  | nil =>
    cases h with
    | close hblanks =>
      rw [hall, List.append_nil]
      exact .last (members_close hblanks false _ rest) (length_lt_close _ _ rest)
  | cons m left ih =>
    cases h with
    | next hbefore hbehind hm hlisted =>
      have hseparated := separated_of_listed hlisted (by decide) rest
      have hrounds := ih (show all = done ++ [m] ++ left by simp [hall]) hlisted
      cases hm with
      | mk hname hcolon hvalue hspelled =>
        have hstep := members_step (hmember done _ left hall) hcolon hvalue hspelled hseparated
          (nextName_next hbefore hbehind hname _)
        simp only [List.append_assoc, List.cons_append]
        exact .round hstep (by simp only [List.length_append, List.length_cons]; omega) hrounds

/-- **The members of an object are read one by one,** whatever stands behind the object. -/
theorem members_of_enclosed {member : σ → String → Reader σ} {draft : List (String × Json) → σ}
    {all : List (String × Json)} (hmember : Builds member draft all)
    (h : Enclosed (Member Spelled) '\x7d' all text) (rest : List Char) :
    members member (draft []) (text ++ rest) = .ok (draft all, rest) := by
  refine Rounds.repeatUntil ?_
  cases h with
  | empty hblanks =>
    exact .last (members_close hblanks true _ rest) (length_lt_close _ _ rest)
  | @parts blanks _ _ m left hblanks hm hlisted =>
    have hseparated := separated_of_listed hlisted (by decide) rest
    have hrounds := rounds_members hmember (show m :: left = [m] ++ left from rfl) hlisted rest
    cases hm with
    | mk hname hcolon hvalue hspelled =>
      have hstep := members_step (hmember [] _ left rfl) hcolon hvalue hspelled hseparated
        (nextName_first hblanks hname _)
      simp only [List.append_assoc, List.cons_append]
      exact .round hstep (by simp only [List.length_append, List.length_cons]; omega) hrounds

/-! ### Values -/

/-- White space may stand in front of the colon of a member. -/
theorem colon_of_blank {blanks : List Char} (h : Blank blanks) (rest : List Char) :
    colon (blanks ++ ':' :: rest) = .ok ((), rest) := by
  rw [colon, bind_of_ok (token?_of_blank h (by decide) rest)]
  rfl

/-- Where a value begins with a digit, a number is read. -/
theorem value_digit {blanks : List Char} {c : Char} (h : Blank blanks) (hc : c ∈ decimalDigits)
    (depth : Nat) (tail : List Char) : value depth (blanks ++ c :: tail) = number (c :: tail) := by
  rw [value.eq_def, bind_of_ok (token?_of_blank h (of_mem_decimalDigits hc).2.1 tail)]
  simp only [decimalDigits, List.mem_cons, List.not_mem_nil, or_false] at hc
  rcases hc with rfl | rfl | rfl | rfl | rfl | rfl | rfl | rfl | rfl | rfl <;> rfl

/-- Where a value begins with a quote, a string is read. -/
theorem value_quote {blanks : List Char} (h : Blank blanks) (depth : Nat) (tail : List Char) :
    value depth (blanks ++ '"' :: tail) =
      (do return Json.string (← stringBody) : Reader Json) tail := by
  rw [value.eq_def, bind_of_ok (token?_of_blank h (by decide) tail)]
  rfl

/-- Where a value begins with a bracket, an array is read. -/
theorem value_bracket {blanks : List Char} (h : Blank blanks) (depth : Nat) (tail : List Char) :
    value (depth + 1) (blanks ++ '[' :: tail) =
      (do return Json.array (← items (value depth)) : Reader Json) tail := by
  rw [value.eq_def, bind_of_ok (token?_of_blank h (by decide) tail)]
  rfl

/-- Where a value begins with a brace, an object is read. -/
theorem value_brace {blanks : List Char} (h : Blank blanks) (depth : Nat) (tail : List Char) :
    value (depth + 1) (blanks ++ '\x7b' :: tail) =
      (do return Json.object (← members (fun gathered name => do
        colon
        return (name, ← value depth) :: gathered) []).reverse : Reader Json) tail := by
  rw [value.eq_def, bind_of_ok (token?_of_blank h (by decide) tail)]
  rfl

/-- Behind a name a colon is read, and then a value. -/
theorem readsMember_colon {reader : Reader α} {json : Json} {a : α} (h : Reads reader json a) :
    ReadsMember (colon >>= fun _ => reader) json a := by
  intro before behind text rest hbefore hbehind hspelled hrest
  rw [bind_of_ok (colon_of_blank hbefore _)]
  exact h behind text rest hbehind hspelled hrest

/-- What follows a reader does not change what it leaves. -/
theorem Reads.bind {reader : Reader α} {json : Json} {a : α} (h : Reads reader json a)
    {f : α → Reader β} {b : β} (hf : ∀ rest, f a rest = .ok (b, rest)) :
    Reads (reader >>= f) json b := by
  intro blanks text rest hblanks hspelled hrest
  rw [bind_of_ok (h blanks text rest hblanks hspelled hrest), hf]

/-- The same behind the name of a member. -/
theorem ReadsMember.bind {reader : Reader α} {json : Json} {a : α} (h : ReadsMember reader json a)
    {f : α → Reader β} {b : β} (hf : ∀ rest, f a rest = .ok (b, rest)) :
    ReadsMember (reader >>= f) json b := by
  intro before behind text rest hbefore hbehind hspelled hrest
  rw [bind_of_ok (h before behind text rest hbefore hbehind hspelled hrest), hf]

/-- A member whose value is kept joins those before it. -/
theorem readsMember_value {depth : Nat} {json : Json} (h : Reads (value depth) json json)
    (name : String) (gathered : List (String × Json)) :
    ReadsMember (do
      colon
      return (name, ← value depth) :: gathered) json ((name, json) :: gathered) :=
  readsMember_colon (h.bind fun _ => rfl)

/-- **A value that is kept is read from every spelling of it.** -/
theorem reads_value {depth : Nat} {json : Json} (h : Kept depth json) :
    Reads (value depth) json json := by
  -- The spelling is taken apart once for every depth; only the parts of arrays and objects need the
  -- statement for a smaller one.
  induction depth using Nat.strongRecOn generalizing json with
  | ind depth ih =>
    intro blanks text rest hblanks hspelled hrest
    cases hspelled with
    | null =>
      rw [value.eq_def, List.cons_append, bind_of_ok (token?_of_blank hblanks (by decide) _)]
      rfl
    | yes =>
      rw [value.eq_def, List.cons_append, bind_of_ok (token?_of_blank hblanks (by decide) _)]
      rfl
    | no =>
      rw [value.eq_def, List.cons_append, bind_of_ok (token?_of_blank hblanks (by decide) _)]
      rfl
    | natural n =>
      obtain ⟨c, tail, hdigits, hc⟩ := exists_toDigits n
      have hn : n < Written.bound := by simpa only [Kept, Written.bound] using h
      have hnumber := number_decimal hn hrest
      rw [hdigits, List.cons_append] at hnumber ⊢
      rw [value_digit hblanks hc, hnumber]
    | string hquoted =>
      cases hquoted with
      | mk hbody =>
        rw [List.cons_append, value_quote hblanks]
        exact bind_of_ok (stringBody_of_unquoted hbody rest)
    | @array items _ henclosed =>
      -- An array is kept only if there is a level left for its items.
      cases depth with
      | zero => exact h.elim
      | succ depth =>
        have hitems : List.Forall₂ (Reads (value depth)) items items :=
          List.forall₂_same.2 fun item hitem => ih depth (Nat.lt_succ_self _) (h item hitem)
        rw [List.cons_append, value_bracket hblanks]
        exact bind_of_ok (items_of_enclosed hitems henclosed rest)
    | @object members _ henclosed =>
      cases depth with
      | zero => exact h.elim
      | succ depth =>
        -- Members are gathered with the latest in front, so the draft is the reversed list.
        have hbuilds : Builds (fun gathered name => do
            colon
            return (name, ← value depth) :: gathered) List.reverse members := by
          intro done m left hall
          rw [List.reverse_append]
          exact readsMember_value (ih depth (Nat.lt_succ_self _) (h m (by simp [hall]))) m.1 _
        rw [List.cons_append, value_brace hblanks]
        refine (bind_of_ok (members_of_enclosed hbuilds henclosed rest)).trans ?_
        rw [List.reverse_reverse]
        rfl

/-! ### Values of one kind -/

/-- `natural` reads a number below its bound. -/
theorem reads_natural {bound n : Nat} (h : n < bound) (hn : n < Written.bound) :
    Reads (natural bound) (.natural n) n := by
  intro blanks text rest hblanks hspelled hrest
  cases hspelled with
  | natural n =>
    obtain ⟨c, tail, hdigits, hc⟩ := exists_toDigits n
    obtain ⟨hdigit, hspace, _⟩ := of_mem_decimalDigits hc
    have hnumber := number_decimal hn hrest
    rw [hdigits, List.cons_append] at hnumber ⊢
    rw [natural, bind_of_ok (token?_of_blank hblanks hspace _)]
    dsimp only
    rw [if_pos (by rw [hdigit, Bool.or_true]), bind_of_ok hnumber, Json.natural?, if_pos h]
    rfl

/-- `Reader.text` reads a string from every spelling of it. -/
theorem reads_text (value : String) : Reads Reader.text (.string value) value := by
  intro blanks text rest hblanks hspelled hrest
  cases hspelled with
  | string hquoted =>
    cases hquoted with
    | mk hbody =>
      rw [Reader.text, List.cons_append, bind_of_ok (token?_of_blank hblanks (by decide) _)]
      exact stringBody_of_unquoted hbody rest

/-- `array` reads the items of an array, whatever stands behind it. -/
theorem array_of_enclosed {item : Reader α} {jsons : List Json} {as : List α} {blanks : List Char}
    (hblanks : Blank blanks) (hitems : List.Forall₂ (Reads item) jsons as)
    (h : Enclosed Spelled ']' jsons text) (rest : List Char) :
    array item (blanks ++ '[' :: (text ++ rest)) = .ok (as, rest) := by
  rw [array, bind_of_ok (token?_of_blank hblanks (by decide) _)]
  exact items_of_enclosed hitems h rest

/-- `object` reads the members of an object, whatever stands behind it. -/
theorem object_of_enclosed {member : σ → String → Reader σ} {draft : List (String × Json) → σ}
    {all : List (String × Json)} {blanks : List Char} (hblanks : Blank blanks)
    (hmember : Builds member draft all) (h : Enclosed (Member Spelled) '\x7d' all text)
    (rest : List Char) :
    object member (draft []) (blanks ++ '\x7b' :: (text ++ rest)) = .ok (draft all, rest) := by
  rw [object, bind_of_ok (token?_of_blank hblanks (by decide) _)]
  exact members_of_enclosed hmember h rest

/-- **Arrays** are read by `array` if their items are read by `item`. -/
theorem reads_array {item : Reader α} {jsons : List Json} {as : List α}
    (hitems : List.Forall₂ (Reads item) jsons as) : Reads (array item) (.array jsons) as := by
  intro blanks text rest hblanks hspelled _
  cases hspelled with
  | array henclosed => exact array_of_enclosed hblanks hitems henclosed rest

/-- **Objects** are read by `object` if their members are read by `member`. -/
theorem reads_object {member : σ → String → Reader σ} {draft : List (String × Json) → σ}
    {all : List (String × Json)} (hmember : Builds member draft all) :
    Reads (object member (draft [])) (.object all) (draft all) := by
  intro blanks text rest hblanks hspelled _
  cases hspelled with
  | object henclosed => exact object_of_enclosed hblanks hmember henclosed rest

/-- `optional` takes null for a value that is not there. -/
theorem reads_optional_null (reader : Reader α) : Reads (optional reader) .null none := by
  intro blanks text rest hblanks hspelled _
  cases hspelled
  rw [optional, List.cons_append, bind_of_ok (token?_of_blank hblanks (by decide) _)]
  rfl

/-- `optional` leaves a string to its reader. -/
theorem reads_optional_text (value : String) :
    Reads (optional Reader.text) (.string value) (some value) := by
  intro blanks text rest hblanks hspelled hrest
  have htext := reads_text value [] text rest Json.blank_nil hspelled hrest
  cases hspelled with
  | string hquoted =>
    cases hquoted with
    | mk hbody =>
      rw [optional, List.cons_append, bind_of_ok (token?_of_blank hblanks (by decide) _)]
      exact bind_of_ok htext

end NativeFlow.Reader
