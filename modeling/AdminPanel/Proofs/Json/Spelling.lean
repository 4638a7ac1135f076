import AdminPanel.Proofs.Json.Reading
import AdminPanel.Json.Skip

/-!
# How documents may be written

The format leaves its writers many choices: separators between any two tokens, and for each
character of a string itself, a letter behind a backslash, or the digits of its number, in two halves
if need be. The texts are described here as they are, without a reader, and so widely that whatever
somebody has edited by hand is among them.

## The architecture

* **`Spells`** — a text is a string in its quotes, each character written in one of the ways of
  `SpellsChar`. The printer uses some of these ways (`spells_stringChars`).
* **`reads_string_of_spellsChars`** — a string is read back however it is spelled.
* **`IsText`** — the grammar of values, with the items of a list and the members of an object as its
  other shapes. Separators follow the tokens.
-/

namespace AdminPanel.Json

open Reader (isSeparator shortEscape? hexNumber isHighSurrogate isLowSurrogate joinSurrogates)

/-! ## Strings -/

/-- The four hexadecimal digits of a code unit. -/
structure IsUnit (digits : List Char) (n : Nat) : Prop where
  four : digits.length = 4
  number : hexNumber digits = some n

/-- The ways in which a character may be written inside a string. -/
inductive SpellsChar : Char → List Char → Prop where
  | plain {c : Char} (quote : c ≠ '"') (backslash : c ≠ '\\') (high : ¬ c.toNat < 0x20) :
    SpellsChar c [c]
  | letter {c d : Char} (short : shortEscape? d = some c) : SpellsChar c ['\\', d]
  | unit {digits : List Char} {n : Nat} (unit : IsUnit digits n)
      (notHigh : isHighSurrogate n = false) (notLow : isLowSurrogate n = false) :
    SpellsChar (Char.ofNat n) ('\\' :: 'u' :: digits)
  | pair {first second : List Char} {high low : Nat} (front : IsUnit first high)
      (back : IsUnit second low) (isHigh : isHighSurrogate high = true)
      (isLow : isLowSurrogate low = true) :
    SpellsChar (Char.ofNat (joinSurrogates high low))
      ('\\' :: 'u' :: first ++ '\\' :: 'u' :: second)

/-- Characters, each written in one of its ways. -/
inductive SpellsChars : List Char → List Char → Prop where
  | nil : SpellsChars [] []
  | cons {c : Char} {cs text texts : List Char} (first : SpellsChar c text)
      (others : SpellsChars cs texts) : SpellsChars (c :: cs) (text ++ texts)

/-- A text is a string in its quotes. -/
def Spells (s : String) (text : List Char) : Prop :=
  ∃ body, text = '"' :: (body ++ ['"']) ∧ SpellsChars s.toList body

theorem spellsChar_escapeChar (c : Char) : SpellsChar c (escapeChar c) := by
  rcases Reader.escapeChar_cases c with
    ⟨form, quote, backslash, high⟩ | ⟨d, form, -, short⟩ | ⟨low, form⟩
  · rw [form]
    exact .plain quote backslash high
  · rw [form]
    exact .letter short
  · have number : hexNumber ['0', '0', hexDigit (c.toNat / 16), hexDigit (c.toNat % 16)]
        = some c.toNat := by
      rw [Reader.hexNumber_pair (by omega) (by omega)]
      congr 1
      omega
    have spelled := SpellsChar.unit (n := c.toNat) ⟨rfl, number⟩
      (by simp [isHighSurrogate]; omega) (by simp [isLowSurrogate]; omega)
    rwa [Char.ofNat_toNat, ← form] at spelled

theorem spellsChars_flatMap (cs : List Char) : SpellsChars cs (cs.flatMap escapeChar) := by
  induction cs with
  | nil => exact .nil
  | cons c cs ih => exact .cons (spellsChar_escapeChar c) ih

/-- A printed string is one of the spellings of the string. -/
theorem spells_stringChars (s : String) : Spells s (stringChars s.toList) :=
  ⟨_, rfl, spellsChars_flatMap s.toList⟩

namespace Reader

theorem reads_unicodeEscape_of_spells {digits : List Char} {n : Nat} (unit : IsUnit digits n)
    (notHigh : isHighSurrogate n = false) (notLow : isLowSurrogate n = false) (rest : List Char) :
    Reads unicodeEscape (digits ++ rest) (Char.ofNat n) rest := by
  refine (reads_hexUnit digits rest unit.four unit.number).bind ?_
  simp only [notLow, notHigh, Bool.false_eq_true, ↓reduceIte]
  exact Reads.pure _ rest

theorem reads_expectInPair (c : Char) (cs : List Char) :
    Reads (expectInPair c) (c :: cs) () cs := by
  refine (reads_peek _).bind ?_
  simp only [List.head?_cons, ↓reduceIte]
  exact reads_skip c cs

theorem reads_unicodeEscape_of_pair {first second : List Char} {high low : Nat}
    (front : IsUnit first high) (back : IsUnit second low) (isHigh : isHighSurrogate high = true)
    (isLow : isLowSurrogate low = true) (rest : List Char) :
    Reads unicodeEscape (first ++ '\\' :: 'u' :: (second ++ rest))
      (Char.ofNat (joinSurrogates high low)) rest := by
  have notLow : isLowSurrogate high = false := by
    simp only [isHighSurrogate, isLowSurrogate, Bool.and_eq_true, Bool.and_eq_false_iff,
      decide_eq_true_eq, decide_eq_false_iff_not] at isHigh ⊢
    omega
  refine (reads_hexUnit first _ front.four front.number).bind ?_
  simp only [notLow, isHigh, Bool.false_eq_true, ↓reduceIte]
  refine (reads_expectInPair '\\' _).bind ?_
  refine (reads_expectInPair 'u' _).bind ?_
  refine (reads_hexUnit second rest back.four back.number).bind ?_
  simp only [isLow, ↓reduceIte]
  exact Reads.pure _ rest

/-- One character is taken in whichever way it is written, and the reading goes on behind it. -/
theorem reads_stringFrom_of_spells {c : Char} {text collected cs rest : List Char} {fuel : Nat}
    {s : String} (spelled : SpellsChar c text)
    (h : Reads (stringFrom (c :: collected) fuel) cs s rest) :
    Reads (stringFrom collected (fuel + 1)) (text ++ cs) s rest := by
  rw [stringFrom]
  refine (reads_peek _).bind ?_
  cases spelled with
  | plain quote backslash high =>
    simp only [List.cons_append, List.nil_append, List.head?_cons, high, ↓reduceIte]
    exact (reads_skip c cs).bind h
  | letter short =>
    rename_i d
    have notU : d ≠ 'u' := by
      rintro rfl
      cases short
    exact (reads_skip '\\' _).bind ((reads_escape_short notU short cs).bind h)
  | unit unit notHigh notLow =>
    refine (reads_skip '\\' _).bind (Reads.bind ?_ h)
    refine (reads_peek _).bind ((reads_skip 'u' _).bind ?_)
    exact reads_unicodeEscape_of_spells unit notHigh notLow cs
  | pair front back isHigh isLow =>
    refine (reads_skip '\\' _).bind (Reads.bind ?_ h)
    refine (reads_peek _).bind ((reads_skip 'u' _).bind ?_)
    simpa using reads_unicodeEscape_of_pair front back isHigh isLow cs

theorem length_pos_of_spellsChar {c : Char} {text : List Char} (h : SpellsChar c text) :
    0 < text.length := by
  cases h <;> simp

theorem reads_stringFrom_of_spellsChars {cs text : List Char} (h : SpellsChars cs text)
    (collected rest : List Char) (fuel : Nat) (enough : text.length < fuel) :
    Reads (stringFrom collected fuel) (text ++ '"' :: rest)
      (String.ofList (collected.reverse ++ cs)) rest := by
  -- induction on the spelling; what is already collected stands in front of it
  induction h generalizing collected fuel with
  | nil => simpa using reads_stringFrom [] collected rest fuel (by simpa using enough)
  | @cons c cs text texts first others ih =>
    obtain ⟨fuel, rfl⟩ : ∃ n, fuel = n + 1 := ⟨fuel - 1, by omega⟩
    have one := length_pos_of_spellsChar first
    have behind := ih (c :: collected) fuel (by simp at enough; omega)
    rw [List.append_assoc]
    simpa using reads_stringFrom_of_spells first behind

/-- **A string is read however it is spelled**, once its opening quote is taken. -/
theorem reads_string_of_spellsChars {s : String} {body : List Char}
    (h : SpellsChars s.toList body) (rest : List Char) :
    Reads string (body ++ '"' :: rest) s rest := by
  refine (reads_remaining _).bind ?_
  simpa using reads_stringFrom_of_spellsChars h [] rest ((body ++ '"' :: rest).length + 1)
    (by simp only [List.length_append]; omega)

end Reader

/-! ## Values -/

/-- Nothing but separators. -/
def IsGap (cs : List Char) : Prop := ∀ c ∈ cs, isSeparator c

theorem isGap_nil : IsGap [] := by simp [IsGap]

/-- What may stand between the quotes of a string that nobody reads: halves of surrogate pairs may
stand alone in it. -/
inductive IsBody : List Char → Prop where
  | nil : IsBody []
  | plain {c : Char} {cs : List Char} (quote : c ≠ '"') (backslash : c ≠ '\\')
      (high : ¬ c.toNat < 0x20) (more : IsBody cs) : IsBody (c :: cs)
  | letter {d : Char} {cs : List Char} (short : (shortEscape? d).isSome) (more : IsBody cs) :
    IsBody ('\\' :: d :: cs)
  | unit {digits cs : List Char} {n : Nat} (unit : IsUnit digits n) (more : IsBody cs) :
    IsBody ('\\' :: 'u' :: digits ++ cs)

/-- One digit or more. -/
structure IsDigits (ds : List Char) : Prop where
  some' : ds ≠ []
  digits : ∀ d ∈ ds, d.isDigit = true

/-- The digits in front of the point: more than one do not start with a zero. -/
def IsWhole (ds : List Char) : Prop := ds = ['0'] ∨ (IsDigits ds ∧ ds.head? ≠ some '0')

/-- Nothing, or a point and digits. -/
def IsFraction (cs : List Char) : Prop := cs = [] ∨ ∃ ds, cs = '.' :: ds ∧ IsDigits ds

/-- Nothing, or a letter, perhaps a sign, and digits. -/
def IsExponent (cs : List Char) : Prop :=
  cs = [] ∨ ∃ letter sign ds, cs = letter :: (sign ++ ds) ∧ (letter = 'e' ∨ letter = 'E') ∧
    (sign = [] ∨ sign = ['+'] ∨ sign = ['-']) ∧ IsDigits ds

/-- A number behind its sign. -/
def IsUnsigned (cs : List Char) : Prop :=
  ∃ whole fraction exponent, cs = whole ++ (fraction ++ exponent) ∧ IsWhole whole ∧
    IsFraction fraction ∧ IsExponent exponent

/-- What a text is: a value, the items of a list, or the members of an object. -/
inductive Shape where
  | value
  | items
  | members

/-- The grammar of values. Separators stand behind the tokens; items and members are one at least. -/
inductive IsText : Shape → List Char → Prop where
  | null : IsText .value ['n', 'u', 'l', 'l']
  | true : IsText .value ['t', 'r', 'u', 'e']
  | false : IsText .value ['f', 'a', 'l', 's', 'e']
  | number {cs : List Char} (number : IsUnsigned cs) : IsText .value cs
  | negative {cs : List Char} (number : IsUnsigned cs) : IsText .value ('-' :: cs)
  | string {cs : List Char} (body : IsBody cs) : IsText .value ('"' :: (cs ++ ['"']))
  | emptyList {g : List Char} (gap : IsGap g) : IsText .value ('[' :: (g ++ [']']))
  | list {g cs : List Char} (gap : IsGap g) (items : IsText .items cs) :
    IsText .value ('[' :: (g ++ (cs ++ [']'])))
  | emptyObject {g : List Char} (gap : IsGap g) : IsText .value ('\x7b' :: (g ++ ['\x7d']))
  | object {g cs : List Char} (gap : IsGap g) (members : IsText .members cs) :
    IsText .value ('\x7b' :: (g ++ (cs ++ ['\x7d'])))
  | lastItem {v g : List Char} (item : IsText .value v) (gap : IsGap g) : IsText .items (v ++ g)
  | item {v g₁ g₂ cs : List Char} (item : IsText .value v) (gap₁ : IsGap g₁) (gap₂ : IsGap g₂)
      (more : IsText .items cs) : IsText .items (v ++ (g₁ ++ ',' :: (g₂ ++ cs)))
  | lastMember {n g₁ g₂ v g₃ : List Char} (name : IsBody n) (gap₁ : IsGap g₁) (gap₂ : IsGap g₂)
      (item : IsText .value v) (gap₃ : IsGap g₃) :
    IsText .members ('"' :: (n ++ '"' :: (g₁ ++ ':' :: (g₂ ++ (v ++ g₃)))))
  | member {n g₁ g₂ v g₃ g₄ cs : List Char} (name : IsBody n) (gap₁ : IsGap g₁) (gap₂ : IsGap g₂)
      (item : IsText .value v) (gap₃ : IsGap g₃) (gap₄ : IsGap g₄) (more : IsText .members cs) :
    IsText .members
      ('"' :: (n ++ '"' :: (g₁ ++ ':' :: (g₂ ++ (v ++ (g₃ ++ ',' :: (g₄ ++ cs)))))))

end AdminPanel.Json
