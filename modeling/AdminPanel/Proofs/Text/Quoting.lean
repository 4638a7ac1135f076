import AdminPanel.Proofs.Json.Reading
import AdminPanel.Text.Quoted

/-!
# Reading quotations

A quotation is written for people, but nothing is lost in it: a reader that goes through it character by
character finds the text again, and where the quotation ends.

* **`disturbs`**, **`filter_disturbs_quoted`** — the characters that break a line or steer a terminal, none of
  which a quotation holds.
* **`unescapeFrom`**, **`unescapeFrom_escape`** — the reader, and that what stands for a character is read as
  this character, whatever follows.
* **`quotation?_append`** — the text that a message quotes, read out of the message.
-/

namespace AdminPanel.Text

open Json (hexDigit)
open Json.Reader (hexValue hexValue_hexDigit)

/-! ## Characters that disturb a message -/

/-- A control character, or one that breaks a line. -/
def disturbs (c : Char) : Bool :=
  let n := c.toNat
  n < 0x20 || (0x7F ≤ n && n ≤ 0x9F) || n == 0x2028 || n == 0x2029

variable {c : Char} {n : Nat}

theorem inRanges_of_mem {ranges : List (Nat × Nat)} {low high : Nat} (range : (low, high) ∈ ranges)
    (above : low ≤ n) (below : n ≤ high) : inRanges ranges n = true :=
  List.any_eq_true.mpr ⟨(low, high), range, by simp [above, below]⟩

theorem isNumbered_of_disturbs (h : disturbs c = true) : isNumbered c = true := by
  simp only [disturbs, Bool.or_eq_true, Bool.and_eq_true, decide_eq_true_eq, beq_iff_eq] at h
  unfold isNumbered
  simp only
  split
  · rfl
  · rw [if_neg (by omega), Bool.or_eq_true]
    left
    rcases h with ((low | high) | line) | paragraph
    · omega
    · exact inRanges_of_mem (by decide : (0x7F, 0xA0) ∈ _) (by omega) (by omega)
    · exact inRanges_of_mem (by decide : (0x2028, 0x202F) ∈ _) (by omega) (by omega)
    · exact inRanges_of_mem (by decide : (0x2028, 0x202F) ∈ _) (by omega) (by omega)

/-- The digits of a number are its last one, behind the digits of the rest, if there is a rest. -/
theorem toDigits_cases (n : Nat) :
    (n < 16 ∧ Nat.toDigits 16 n = [hexDigit n]) ∨
      (n / 16 < n ∧ Nat.toDigits 16 n = Nat.toDigits 16 (n / 16) ++ [hexDigit (n % 16)]) := by
  rcases Nat.lt_or_ge n 16 with small | large
  · exact .inl ⟨small, Nat.toDigits_of_lt_base small⟩
  · exact .inr ⟨by omega, Nat.toDigits_of_base_le (by decide) large⟩

theorem not_disturbs_of_mem_toDigits (h : c ∈ Nat.toDigits 16 n) : disturbs c = false := by
  have digit : ∀ d < 16, disturbs (hexDigit d) = false := by decide
  induction n using Nat.strongRecOn with
  | ind n ih =>
    rcases toDigits_cases n with ⟨small, digits⟩ | ⟨less, digits⟩
    · rw [digits, List.mem_singleton] at h
      exact h ▸ digit n small
    · rw [digits, List.mem_append, List.mem_singleton] at h
      rcases h with front | last
      · exact ih (n / 16) less front
      · exact last ▸ digit (n % 16) (Nat.mod_lt n (by decide))

/-! ## What stands for a character -/

/-- The character that a letter stands for behind a backslash. -/
def ofLetter? : Char → Option Char
  | '0' => some '\x00'
  | 't' => some '\t'
  | 'r' => some '\r'
  | 'n' => some '\n'
  | '\\' => some '\\'
  | '"' => some '"'
  | _ => none

/-- A character stands behind a backslash as a letter, by its number, or as itself. -/
theorem escape_cases (c : Char) :
    (∃ d, escape c = ['\\', d] ∧ ofLetter? d = some c ∧ d ≠ 'u' ∧ disturbs d = false) ∨
      escape c = numbered c ∨
      (escape c = [c] ∧ c ≠ '"' ∧ c ≠ '\\' ∧ isNumbered c = false) := by
  unfold escape
  split
  · exact .inl ⟨'0', by decide⟩
  · exact .inl ⟨'t', by decide⟩
  · exact .inl ⟨'r', by decide⟩
  · exact .inl ⟨'n', by decide⟩
  · exact .inl ⟨'\\', by decide⟩
  · exact .inl ⟨'"', by decide⟩
  · next notNull notTab notReturn notNewline notBackslash notQuote =>
    by_cases number : isNumbered c = true
    · exact .inr (.inl (if_pos number))
    · exact .inr (.inr ⟨if_neg number, notQuote, notBackslash, Bool.eq_false_iff.mpr number⟩)

theorem not_disturbs_of_mem_escape {d : Char} (h : d ∈ escape c) : disturbs d = false := by
  rcases escape_cases c with ⟨letter, form, -, -, calm⟩ | form | ⟨form, -, -, shown⟩
  · simp only [form, List.mem_cons, List.not_mem_nil, or_false] at h
    rcases h with rfl | rfl
    · rfl
    · exact calm
  · simp only [form, numbered, List.cons_append, List.nil_append, List.mem_cons, List.mem_append,
      List.not_mem_nil, or_false] at h
    rcases h with rfl | rfl | rfl | digit | rfl
    · rfl
    · rfl
    · rfl
    · exact not_disturbs_of_mem_toDigits digit
    · rfl
  · rw [form, List.mem_singleton] at h
    rw [h, Bool.eq_false_iff]
    exact fun disturbing => absurd (isNumbered_of_disturbs disturbing) (by simp [shown])

/-- **A quotation disturbs nothing.** -/
theorem filter_disturbs_quoted (s : String) : (quoted s).toList.filter disturbs = [] := by
  rw [quoted, String.toList_ofList, List.filter_eq_nil_iff]
  intro d within
  rw [Bool.not_eq_true]
  simp only [quoteChars, List.cons_append, List.mem_cons, List.mem_append, List.mem_flatMap,
    List.not_mem_nil, or_false] at within
  rcases within with rfl | ⟨c, -, inEscape⟩ | rfl
  · rfl
  · exact not_disturbs_of_mem_escape inEscape
  · rfl

/-! ## Reading -/

/-- Where a reader stands within a quotation. -/
inductive Within where
  | text
  /-- Behind a backslash. -/
  | escape
  /-- In front of the brace that opens a number. -/
  | opening
  /-- Among the digits of a number, of which these have been read. -/
  | number (n : Nat)

/-- Reads a quotation to its end: the rest of the text, and what stands behind the quotation. -/
def unescapeFrom : Within → List Char → Option (List Char × List Char)
  | _, [] => none
  | .text, c :: cs =>
    if c = '"' then some ([], cs)
    else if c = '\\' then unescapeFrom .escape cs
    else (unescapeFrom .text cs).map (Prod.map (c :: ·) id)
  | .escape, c :: cs =>
    if c = 'u' then unescapeFrom .opening cs
    else do
      let d ← ofLetter? c
      (unescapeFrom .text cs).map (Prod.map (d :: ·) id)
  | .opening, c :: cs => if c = '\x7b' then unescapeFrom (.number 0) cs else none
  | .number n, c :: cs =>
    if c = '\x7d' then (unescapeFrom .text cs).map (Prod.map (Char.ofNat n :: ·) id)
    else do
      let d ← hexValue c
      unescapeFrom (.number (16 * n + d)) cs

variable {rest : List Char}

theorem unescapeFrom_hexDigit {d : Nat} (digit : d < 16) :
    unescapeFrom (.number n) (hexDigit d :: rest) = unescapeFrom (.number (16 * n + d)) rest := by
  have notBrace : ∀ d < 16, hexDigit d ≠ '\x7d' := by decide
  rw [unescapeFrom, if_neg (notBrace d digit), hexValue_hexDigit d digit]
  rfl

/-- The digits of a number are read as the number. -/
theorem unescapeFrom_toDigits (n : Nat) (rest : List Char) :
    unescapeFrom (.number 0) (Nat.toDigits 16 n ++ rest) = unescapeFrom (.number n) rest := by
  induction n using Nat.strongRecOn generalizing rest with
  | ind n ih =>
    rcases toDigits_cases n with ⟨small, digits⟩ | ⟨less, digits⟩
    · rw [digits, List.singleton_append, unescapeFrom_hexDigit small, Nat.mul_zero, Nat.zero_add]
    · rw [digits, List.append_assoc, ih (n / 16) less, List.singleton_append,
        unescapeFrom_hexDigit (Nat.mod_lt n (by decide)), Nat.div_add_mod]

/-- **What stands for a character is read as the character**, whatever follows. -/
theorem unescapeFrom_escape (c : Char) (rest : List Char) :
    unescapeFrom .text (escape c ++ rest) =
      (unescapeFrom .text rest).map (Prod.map (c :: ·) id) := by
  rcases escape_cases c with ⟨d, form, letter, notNumber, -⟩ | form | ⟨form, notQuote, notBackslash, -⟩
  · rw [form, List.cons_append, List.singleton_append, unescapeFrom, if_neg (by decide), if_pos rfl,
      unescapeFrom, if_neg notNumber, letter]
    rfl
  · have behind := unescapeFrom_toDigits c.toNat ('\x7d' :: rest)
    rw [unescapeFrom, if_pos rfl, Char.ofNat_toNat] at behind
    rw [form, numbered, ← behind]
    simp [unescapeFrom]
  · rw [form, List.singleton_append, unescapeFrom, if_neg notQuote, if_neg notBackslash]

/-- A quotation is read to its end and no further. -/
theorem unescapeFrom_flatMap (cs rest : List Char) :
    unescapeFrom .text (cs.flatMap escape ++ '"' :: rest) = some (cs, rest) := by
  induction cs with
  | nil => rfl
  | cons c cs ih =>
    rw [List.flatMap_cons, List.append_assoc, unescapeFrom_escape, ih]
    rfl

/-- The text of the first quotation in a message. -/
def quotation? (message : String) : Option String :=
  match message.toList.dropWhile (· ≠ '"') with
  | [] => none
  | _ :: cs => (unescapeFrom .text cs).map fun (text, _) => String.ofList text

/-- **What a message quotes can be read out of it.** -/
theorem quotation?_append {before : String} (first : '"' ∉ before.toList) (text after : String) :
    quotation? (before ++ quoted text ++ after) = some text := by
  have chars : (before ++ quoted text ++ after).toList =
      before.toList ++ '"' :: (text.toList.flatMap escape ++ '"' :: after.toList) := by
    simp [quoted, quoteChars]
  have start : ∀ c ∈ before.toList, decide (c ≠ '"') = true := fun c within =>
    decide_eq_true fun quote => first (quote ▸ within)
  rw [quotation?, chars, List.dropWhile_append_of_pos start, List.dropWhile_cons_of_neg (by simp)]
  simp [unescapeFrom_flatMap]

end AdminPanel.Text
