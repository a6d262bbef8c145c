import Mathlib.Tactic.SplitIfs
import NativeFlow.Json.Basic

namespace NativeFlow.Json

/-!
# Spellings of JSON values

One value has many texts. White space may stand around every part of it, and a character of a
string may be written as itself, by a letter after a backslash, or by its code units. The grammar
below says which texts these are; it is said of values and texts alone, without any reader.

* `CharSpelled`, `Quoted`: the spellings of a character and of a string.
* `Enclosed`: a list between brackets, with a comma between two parts.
* `Spelled`: the spellings of a value.
* `Kept`: the values of a given depth in which every number is a natural one of 64 bits.
* `appends_of_kept`: what is written of such a value is a spelling of it, in every layout.
-/

/-! ### Strings -/

/-- White space. -/
def Blank (text : List Char) : Prop := ∀ c ∈ text, c ∈ [' ', '\n', '\t', '\r']

/-- A hexadecimal digit, in either case. -/
def HexDigit (value : Nat) (c : Char) : Prop :=
  value < 16 ∧ (c = value.digitChar ∨ c = value.digitChar.toUpper)

/-- Four hexadecimal digits. -/
inductive HexUnit : Nat → List Char → Prop
  | mk {v₁ v₂ v₃ v₄ : Nat} {c₁ c₂ c₃ c₄ : Char} (h₁ : HexDigit v₁ c₁) (h₂ : HexDigit v₂ c₂)
      (h₃ : HexDigit v₃ c₃) (h₄ : HexDigit v₄ c₄) :
    HexUnit (v₁ * 0x1000 + v₂ * 0x100 + v₃ * 0x10 + v₄) [c₁, c₂, c₃, c₄]

/-- The letters that stand for a character after a backslash. -/
def escapeLetters : List (Char × Char) :=
  [('"', '"'), ('\\', '\\'), ('/', '/'), ('b', '\x08'), ('f', '\x0c'), ('n', '\n'), ('r', '\r'),
    ('t', '\t')]

/-- The spellings of a character in a string. -/
inductive CharSpelled : Char → List Char → Prop
  | plain {c : Char} (hquote : c ≠ '"') (hslash : c ≠ '\\') (hcontrol : 0x20 ≤ c.toNat) :
    CharSpelled c [c]
  | letter {c l : Char} (h : (l, c) ∈ escapeLetters) : CharSpelled c ['\\', l]
  | unit {c : Char} {text : List Char} (h : HexUnit c.toNat text) :
    CharSpelled c ('\\' :: 'u' :: text)
  /-- A character beyond the first 65536 has two code units, with ten bits in each. -/
  | pair {c : Char} {high low : Nat} {first second : List Char} (hhigh : high < 0x400)
      (hlow : low < 0x400) (hc : c.toNat = 0x10000 + high * 0x400 + low)
      (hfirst : HexUnit (0xD800 + high) first) (hsecond : HexUnit (0xDC00 + low) second) :
    CharSpelled c ('\\' :: 'u' :: (first ++ '\\' :: 'u' :: second))

/-- The spellings of the characters of a string, up to the quote behind them. -/
inductive Unquoted : List Char → List Char → Prop
  | nil : Unquoted [] ['"']
  | cons {c : Char} {cs text rest : List Char} (hc : CharSpelled c text) (h : Unquoted cs rest) :
    Unquoted (c :: cs) (text ++ rest)

/-- The spellings of a string. -/
inductive Quoted : String → List Char → Prop
  | mk {value : String} {body : List Char} (h : Unquoted value.toList body) :
    Quoted value ('"' :: body)

/-! ### Values -/

/-- What follows a part of a list: more parts, each behind a comma, and the bracket that closes the
list. -/
inductive Listed {β : Type} (P : β → List Char → Prop) (close : Char) : List β → List Char → Prop
  | close {blanks : List Char} (hblanks : Blank blanks) : Listed P close [] (blanks ++ [close])
  | next {before behind text rest : List Char} {x : β} {xs : List β} (hbefore : Blank before)
      (hbehind : Blank behind) (hx : P x text) (hxs : Listed P close xs rest) :
    Listed P close (x :: xs) (before ++ ',' :: (behind ++ (text ++ rest)))

/-- The spellings of a list without its opening bracket; `P` tells those of its parts. -/
inductive Enclosed {β : Type} (P : β → List Char → Prop) (close : Char) : List β → List Char → Prop
  | empty {blanks : List Char} (hblanks : Blank blanks) : Enclosed P close [] (blanks ++ [close])
  | parts {blanks text rest : List Char} {x : β} {xs : List β} (hblanks : Blank blanks)
      (hx : P x text) (hxs : Listed P close xs rest) :
    Enclosed P close (x :: xs) (blanks ++ (text ++ rest))

/-- The spellings of a member of an object; `P` tells those of its value. -/
inductive Member (P : Json → List Char → Prop) : String × Json → List Char → Prop
  | mk {name : String} {value : Json} {quoted before behind text : List Char}
      (hname : Quoted name quoted) (hbefore : Blank before) (hbehind : Blank behind)
      (hvalue : P value text) :
    Member P (name, value) (quoted ++ (before ++ ':' :: (behind ++ text)))

/-- The spellings of a value, without white space around it. -/
inductive Spelled : Json → List Char → Prop
  | null : Spelled .null ['n', 'u', 'l', 'l']
  | yes : Spelled (.bool true) ['t', 'r', 'u', 'e']
  | no : Spelled (.bool false) ['f', 'a', 'l', 's', 'e']
  | natural (value : Nat) : Spelled (.natural value) (Nat.toDigits 10 value)
  | string {value : String} {text : List Char} (h : Quoted value text) :
    Spelled (.string value) text
  | array {items : List Json} {text : List Char} (h : Enclosed Spelled ']' items text) :
    Spelled (.array items) ('[' :: text)
  | object {members : List (String × Json)} {text : List Char}
      (h : Enclosed (Member Spelled) '\x7d' members text) :
    Spelled (.object members) ('\x7b' :: text)

/-- The values in which at most `depth` arrays and objects are nested and every number is a natural
one of 64 bits. -/
def Kept : Nat → Json → Prop
  | _, .null => True
  | _, .bool _ => True
  | _, .natural value => value < 0x10000000000000000
  | _, .otherNumber => False
  | _, .string _ => True
  | 0, .array _ => False
  | depth + 1, .array items => ∀ item ∈ items, Kept depth item
  | 0, .object _ => False
  | depth + 1, .object members => ∀ member ∈ members, Kept depth member.2

/-- What fits into a depth fits into a greater one. -/
theorem Kept.mono {depth deeper : Nat} {json : Json} (h : Kept depth json) (hle : depth ≤ deeper) :
    Kept deeper json := by
  induction depth generalizing deeper json with
  | zero => cases json <;> simp_all [Kept]
  | succ depth ih =>
    obtain ⟨deeper, rfl⟩ : ∃ d, deeper = d + 1 := ⟨deeper - 1, by omega⟩
    have hle : depth ≤ deeper := Nat.le_of_succ_le_succ hle
    cases json with
    | array items => exact fun item hitem => ih (h item hitem) hle
    | object members => exact fun member hmember => ih (h member hmember) hle
    | natural value => simpa only [Kept] using h
    | otherNumber => exact h.elim
    | null => simp only [Kept]
    | bool value => simp only [Kept]
    | string value => simp only [Kept]

/-! ### Written values -/

@[simp] theorem blank_nil : Blank [] := by
  intro c hc
  cases hc

/-- A line break with its indentation is white space. -/
@[simp] theorem blank_newline (layout : Layout) : Blank layout.newline.toList := by
  cases layout with
  | none => exact blank_nil
  | some level =>
    intro c hc
    simp only [Layout.newline, String.toList_append, List.mem_append, String.toList_ofList] at hc
    rcases hc with hc | hc
    · rw [List.mem_singleton.1 hc]
      decide
    · rw [List.eq_of_mem_replicate hc]
      decide

/-- A colon is followed by white space at most. -/
theorem exists_colon (layout : Layout) :
    ∃ behind, Blank behind ∧ layout.colon.toList = ':' :: behind := by
  cases layout with
  | none => exact ⟨[], blank_nil, rfl⟩
  | some level => exact ⟨[' '], by simp [Blank], by simp [Layout.colon]⟩

/-- A control character is written by its code unit. -/
theorem hexUnit_control {n : Nat} (h : n < 0x20) :
    HexUnit n ('0' :: '0' :: (if n < 0x10 then ['0'] else []) ++ Nat.toDigits 16 n) := by
  -- One digit or two: below `0x10` a third zero is written in front.
  by_cases hn : n < 0x10
  · rw [if_pos hn, Nat.toDigits_of_lt_base hn]
    have hunit : HexUnit (0 * 0x1000 + 0 * 0x100 + 0 * 0x10 + n) ['0', '0', '0', n.digitChar] :=
      .mk ⟨by decide, .inl rfl⟩ ⟨by decide, .inl rfl⟩ ⟨by decide, .inl rfl⟩ ⟨hn, .inl rfl⟩
    simpa using hunit
  · have hdigits : Nat.toDigits 16 n = ['1', (n % 16).digitChar] := by
      rw [Nat.toDigits_of_base_le (by decide) (by omega), show n / 16 = 1 by omega]
      rfl
    rw [if_neg hn, hdigits]
    have hunit : HexUnit (0 * 0x1000 + 0 * 0x100 + 1 * 0x10 + n % 16)
        ['0', '0', '1', (n % 16).digitChar] :=
      .mk ⟨by decide, .inl rfl⟩ ⟨by decide, .inl rfl⟩ ⟨by decide, .inl rfl⟩
        ⟨Nat.mod_lt n (by decide), .inl rfl⟩
    rwa [show 0 * 0x1000 + 0 * 0x100 + 1 * 0x10 + n % 16 = n by omega] at hunit

/-- What is written of a character is a spelling of it. -/
theorem charSpelled_escape (c : Char) : CharSpelled c (escape c).toList := by
  unfold escape
  -- One goal for each branch of `escape`: seven letters, two kinds of control character, and the
  -- rest.
  split_ifs with hquote hslash hn hr ht hb hf hlow hcontrol
  · subst hquote
    exact .letter (by decide)
  · subst hslash
    exact .letter (by decide)
  · subst hn
    exact .letter (by decide)
  · subst hr
    exact .letter (by decide)
  · subst ht
    exact .letter (by decide)
  · subst hb
    exact .letter (by decide)
  · subst hf
    exact .letter (by decide)
  · have hunit := hexUnit_control (show c.toNat < 0x20 by omega)
    rw [if_pos hlow] at hunit
    simpa [Numeral.hexadecimal, Numeral.digitsIn] using CharSpelled.unit hunit
  · have hunit := hexUnit_control hcontrol
    rw [if_neg hlow] at hunit
    simpa [Numeral.hexadecimal, Numeral.digitsIn] using CharSpelled.unit hunit
  · simpa using CharSpelled.plain hquote hslash (by omega)

/-- What is written of the characters of a string is a spelling of them. -/
theorem exists_unquoted_foldl (cs : List Char) (text : String) :
    ∃ body, Unquoted cs body ∧
      (cs.foldl (fun text c => text ++ escape c) text ++ "\"").toList = text.toList ++ body := by
  induction cs generalizing text with
  | nil => exact ⟨['"'], .nil, by simp⟩
  | cons c cs ih =>
    obtain ⟨body, hbody, htext⟩ := ih (text ++ escape c)
    refine ⟨(escape c).toList ++ body, .cons (charSpelled_escape c) hbody, ?_⟩
    rw [List.foldl_cons, htext, String.toList_append, List.append_assoc]

/-- What is written of a string is a spelling of it, with the quotes around it. -/
theorem quoted_quote (value : String) : Quoted value (quote value).toList := by
  obtain ⟨body, hbody, htext⟩ := exists_unquoted_foldl value.toList "\""
  rw [quote, htext]
  exact .mk hbody

/-- Values that are appended to any text by a spelling of theirs, in every layout. -/
def Appends (json : Json) : Prop :=
  ∀ layout text, ∃ spelling, Spelled json spelling ∧
    (write layout text json).toList = text.toList ++ spelling

/-- The items of an array after the first, up to the bracket. -/
theorem exists_listed_writeItems {items : List Json} (h : ∀ item ∈ items, Appends item)
    (layout : Layout) (text : String) :
    ∃ spelling, Listed Spelled ']' items spelling ∧
      (writeItems layout text items ++ layout.newline ++ "]").toList = text.toList ++ spelling := by
  -- Induction on the items, with the text written so far as the accumulator.
  induction items generalizing text with
  | nil =>
    exact ⟨layout.newline.toList ++ [']'], .close (blank_newline layout), by simp [writeItems]⟩
  | cons item items ih =>
    rw [List.forall_mem_cons] at h
    obtain ⟨first, hfirst, hwrite⟩ := h.1 layout.inner (text ++ "," ++ layout.inner.newline)
    obtain ⟨rest, hrest, hwrites⟩ := ih h.2
      (write layout.inner (text ++ "," ++ layout.inner.newline) item)
    refine ⟨[] ++ ',' :: (layout.inner.newline.toList ++ (first ++ rest)),
      .next blank_nil (blank_newline _) hfirst hrest, ?_⟩
    rw [writeItems, hwrites, hwrite]
    simp

/-- One member of an object. -/
theorem exists_member_write {json : Json} (h : Appends json) (layout inner : Layout) (name : String)
    (text : String) :
    ∃ spelling, Member Spelled (name, json) spelling ∧
      (write inner (text ++ quote name ++ layout.colon) json).toList = text.toList ++ spelling := by
  obtain ⟨value, hvalue, hwrite⟩ := h inner (text ++ quote name ++ layout.colon)
  obtain ⟨behind, hbehind, hcolon⟩ := exists_colon layout
  refine ⟨(quote name).toList ++ ([] ++ ':' :: (behind ++ value)),
    .mk (quoted_quote name) blank_nil hbehind hvalue, ?_⟩
  rw [hwrite]
  simp [hcolon]

/-- The members of an object after the first, up to the brace. -/
theorem exists_listed_writeMembers {members : List (String × Json)}
    (h : ∀ member ∈ members, Appends member.2) (layout : Layout) (text : String) :
    ∃ spelling, Listed (Member Spelled) '\x7d' members spelling ∧
      (writeMembers layout text members ++ layout.newline ++ "\x7d").toList =
        text.toList ++ spelling := by
  induction members generalizing text with
  | nil =>
    exact ⟨layout.newline.toList ++ ['\x7d'], .close (blank_newline layout), by simp [writeMembers]⟩
  | cons member members ih =>
    obtain ⟨name, json⟩ := member
    rw [List.forall_mem_cons] at h
    obtain ⟨first, hfirst, hwrite⟩ := exists_member_write h.1 layout layout.inner name
      (text ++ "," ++ layout.inner.newline)
    obtain ⟨rest, hrest, hwrites⟩ := ih h.2 (write layout.inner
      (text ++ "," ++ layout.inner.newline ++ quote name ++ layout.colon) json)
    refine ⟨[] ++ ',' :: (layout.inner.newline.toList ++ (first ++ rest)),
      .next blank_nil (blank_newline _) hfirst hrest, ?_⟩
    rw [writeMembers, hwrites, hwrite]
    simp

/-- An array is appended by a spelling of it when its items are. -/
theorem appends_array {items : List Json} (h : ∀ item ∈ items, Appends item) :
    Appends (.array items) := by
  intro layout text
  cases items with
  | nil => exact ⟨['[', ']'], .array (.empty blank_nil), by simp [write]⟩
  | cons item items =>
    rw [List.forall_mem_cons] at h
    obtain ⟨first, hfirst, hwrite⟩ := h.1 layout.inner (text ++ "[" ++ layout.inner.newline)
    obtain ⟨rest, hrest, hwrites⟩ := exists_listed_writeItems h.2 layout
      (write layout.inner (text ++ "[" ++ layout.inner.newline) item)
    refine ⟨'[' :: (layout.inner.newline.toList ++ (first ++ rest)),
      .array (.parts (blank_newline _) hfirst hrest), ?_⟩
    rw [write, hwrites, hwrite]
    simp

/-- An object is appended by a spelling of it when the values of its members are. -/
theorem appends_object {members : List (String × Json)}
    (h : ∀ member ∈ members, Appends member.2) : Appends (.object members) := by
  intro layout text
  cases members with
  | nil => exact ⟨['\x7b', '\x7d'], .object (.empty blank_nil), by simp [write]⟩
  | cons member members =>
    obtain ⟨name, json⟩ := member
    rw [List.forall_mem_cons] at h
    obtain ⟨first, hfirst, hwrite⟩ := exists_member_write h.1 layout layout.inner name
      (text ++ "\x7b" ++ layout.inner.newline)
    obtain ⟨rest, hrest, hwrites⟩ := exists_listed_writeMembers h.2 layout (write layout.inner
      (text ++ "\x7b" ++ layout.inner.newline ++ quote name ++ layout.colon) json)
    refine ⟨'\x7b' :: (layout.inner.newline.toList ++ (first ++ rest)),
      .object (.parts (blank_newline _) hfirst hrest), ?_⟩
    rw [write, hwrites, hwrite]
    simp

/-- **What is written of a value is a spelling of it.** -/
theorem appends_of_kept {depth : Nat} {json : Json} (h : Kept depth json) : Appends json := by
  -- The depth bounds the nesting, so the induction on it reaches the parts of arrays and objects.
  induction depth generalizing json with
  | zero =>
    intro layout text
    cases json with
    | null => exact ⟨_, .null, by simp [write]⟩
    | bool value =>
      cases value with
      | true => exact ⟨_, .yes, by simp [write]⟩
      | false => exact ⟨_, .no, by simp [write]⟩
    | natural value => exact ⟨_, .natural value, by simp [write, Numeral.decimal, Numeral.digitsIn]⟩
    | string value => exact ⟨_, .string (quoted_quote value), by simp [write]⟩
    | otherNumber => exact h.elim
    | array items => exact h.elim
    | object members => exact h.elim
  | succ depth ih =>
    cases json with
    | array items => exact appends_array fun item hitem => ih (h item hitem)
    | object members => exact appends_object fun member hmember => ih (h member hmember)
    | null => exact ih (by simp only [Kept])
    | bool value => exact ih (by simp only [Kept])
    | natural value => exact ih (by simpa only [Kept] using h)
    | string value => exact ih (by simp only [Kept])
    | otherNumber => exact h.elim

end NativeFlow.Json
