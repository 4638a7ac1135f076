import AdminPanel.Json.Typed
import AdminPanel.Json.Printer

/-!
# Reading back what is printed: strings

The reader of documents keeps track of lines and columns, which only its faults show. `Reads` leaves
them out: it says which characters a reader takes from the front of a text, and what it makes of
them.

## The architecture

* **`Reads r cs a rest`** — on the characters `cs` the reader `r` gives `a` and leaves `rest`,
  wherever in a document the characters stand. Readers that are bound read one stretch after the
  other (`Reads.bind`).
* **`escapeChar_cases`** — the three forms in which a character is printed inside a string.
* **`reads_stringFrom`** — a printed string is read back, character by character, whatever
  characters it holds.
-/

namespace AdminPanel.Json.Reader

variable {α β : Type}

/-- A reader takes the characters up to `rest` and gives a value, at any place in a document. -/
def Reads (r : Reader α) (cs : List Char) (a : α) (rest : List Char) : Prop :=
  ∀ p, ∃ p', r ⟨cs, p⟩ = .ok (a, ⟨rest, p'⟩)

namespace Reads

variable {cs mid rest : List Char} {a : α} {b : β}

theorem pure (a : α) (cs : List Char) : Reads (Pure.pure a) cs a cs :=
  fun p => ⟨p, rfl⟩

/-- Readers that are bound read one stretch after the other. -/
theorem bind {r : Reader α} {f : α → Reader β} (h : Reads r cs a mid)
    (hf : Reads (f a) mid b rest) :
    Reads (r >>= f) cs b rest := by
  intro p
  obtain ⟨p₁, h₁⟩ := h p
  obtain ⟨p₂, h₂⟩ := hf p₁
  refine ⟨p₂, ?_⟩
  show (r ⟨cs, p⟩ >>= fun x => f x.1 x.2) = _
  rw [h₁]
  exact h₂

end Reads

/-! ## Single characters and separators -/

theorem reads_peek (cs : List Char) : Reads peek cs cs.head? cs :=
  fun p => ⟨p, rfl⟩

theorem reads_skip (c : Char) (cs : List Char) : Reads skip (c :: cs) () cs :=
  fun p => ⟨p.after c, rfl⟩

theorem reads_remaining (cs : List Char) : Reads remaining cs cs.length cs :=
  fun p => ⟨p, rfl⟩

/-- Characters that are dropped from the front, up to one that is not. -/
theorem dropWhile_append {q : Char → Bool} {pre rest : List Char} (hpre : ∀ c ∈ pre, q c)
    (hrest : ∀ c ∈ rest.head?, q c = false) (p : Position) :
    ∃ p', dropWhile q p (pre ++ rest) = ⟨rest, p'⟩ := by
  -- induction on the characters that are dropped
  induction pre generalizing p with
  | nil =>
    cases rest with
    | nil => exact ⟨p, rfl⟩
    | cons c cs =>
      have stop : q c = false := hrest c (by simp)
      exact ⟨p, by simp [dropWhile, stop]⟩
  | cons c cs ih =>
    have go : q c = true := hpre c (by simp)
    obtain ⟨p', h⟩ := ih (fun d hd => hpre d (by simp [hd])) (p.after c)
    exact ⟨p', by simp [dropWhile, go, h]⟩

/-- Separators in front of a token are passed over. -/
theorem reads_peekToken (pre rest : List Char) (hpre : ∀ c ∈ pre, isSeparator c)
    (hrest : ∀ c ∈ rest.head?, isSeparator c = false) :
    Reads peekToken (pre ++ rest) rest.head? rest := by
  intro p
  obtain ⟨p', h⟩ := dropWhile_append hpre hrest p
  exact ⟨p', by simp [peekToken, h]⟩

theorem reads_peekToken_cons {c : Char} (h : isSeparator c = false) (cs : List Char) :
    Reads peekToken (c :: cs) (some c) (c :: cs) :=
  reads_peekToken [] (c :: cs) (by simp) (by simpa using h)

/-- A whole text is read if only separators follow what its reader takes. -/
theorem readAll_of_reads {r : Reader α} {text : String} {a : α} {gap : List Char}
    (h : Reads r text.toList a gap) (hgap : ∀ c ∈ gap, isSeparator c) : r.readAll text = .ok a := by
  have token : Reads peekToken gap none [] := by
    simpa using reads_peekToken gap [] hgap (by simp)
  have ending : Reads finish gap () [] := token.bind (Reads.pure () [])
  have whole : Reads (do let a ← r; finish; Pure.pure a) text.toList a [] :=
    h.bind (ending.bind (Reads.pure a []))
  obtain ⟨p, hp⟩ := whole {}
  unfold readAll Cursor.ofString
  rw [hp]

/-! ## Escapes -/

theorem hexValue_hexDigit : ∀ n < 16, hexValue (hexDigit n) = some n := by decide

theorem hexNumber_pair {a b : Nat} (ha : a < 16) (hb : b < 16) :
    hexNumber ['0', '0', hexDigit a, hexDigit b] = some (16 * a + b) := by
  have zero : hexValue '0' = some 0 := by decide
  simp [hexNumber, zero, hexValue_hexDigit a ha, hexValue_hexDigit b hb]
  omega

theorem length_le_byteCount (cs : List Char) : cs.length ≤ byteCount cs := by
  have grows : ∀ (n : Nat), n + cs.length ≤ cs.foldl (fun n c => n + c.utf8Size) n := by
    induction cs with
    | nil => intro n; simp
    | cons c cs ih =>
      intro n
      have step := ih (n + c.utf8Size)
      have pos := c.utf8Size_pos
      simp only [List.length_cons, List.foldl_cons]
      omega
  simpa [byteCount] using grows 0

theorem reads_skipMany (pre rest : List Char) :
    Reads (skipMany pre.length) (pre ++ rest) () rest := by
  induction pre with
  | nil => exact Reads.pure () rest
  | cons c pre ih => exact (reads_skip c _).bind ih

theorem reads_hexUnit (digits rest : List Char) {n : Nat} (four : digits.length = 4)
    (h : hexNumber digits = some n) : Reads hexUnit (digits ++ rest) n rest := by
  intro p
  have room : ¬ byteCount (digits ++ rest) < 4 := by
    have := length_le_byteCount (digits ++ rest)
    simp only [List.length_append] at this
    omega
  have front : (digits ++ rest).take 4 = digits := by rw [← four, List.take_left]
  have skips : Reads (do skipMany 4; Pure.pure n) (digits ++ rest) n rest := by
    rw [← four]
    exact (reads_skipMany digits rest).bind (Reads.pure n rest)
  obtain ⟨p', hp'⟩ := skips p
  exact ⟨p', by simpa [hexUnit, room, front, h] using hp'⟩

/-- The three forms in which a character is printed inside a string: itself, a letter behind a
backslash, or its number in hexadecimal digits. -/
theorem escapeChar_cases (c : Char) :
    (escapeChar c = [c] ∧ c ≠ '"' ∧ c ≠ '\\' ∧ ¬ c.toNat < 0x20) ∨
    (∃ d, escapeChar c = ['\\', d] ∧ d ≠ 'u' ∧ shortEscape? d = some c) ∨
    (c.toNat < 0x20 ∧ escapeChar c =
      ['\\', 'u', '0', '0', hexDigit (c.toNat / 16), hexDigit (c.toNat % 16)]) := by
  -- seven characters have a letter of their own
  unfold escapeChar
  split
  · exact .inr (.inl ⟨'"', rfl, by decide, rfl⟩)
  · exact .inr (.inl ⟨'\\', rfl, by decide, rfl⟩)
  · exact .inr (.inl ⟨'b', rfl, by decide, rfl⟩)
  · exact .inr (.inl ⟨'f', rfl, by decide, rfl⟩)
  · exact .inr (.inl ⟨'n', rfl, by decide, rfl⟩)
  · exact .inr (.inl ⟨'r', rfl, by decide, rfl⟩)
  · exact .inr (.inl ⟨'t', rfl, by decide, rfl⟩)
  · next quote backslash _ _ _ _ _ =>
    split
    · next low => exact .inr (.inr ⟨low, rfl⟩)
    · next high => exact .inl ⟨rfl, quote, backslash, high⟩

/-- A number below the control limit is read back as its character. -/
theorem reads_unicodeEscape {c : Char} (low : c.toNat < 0x20) (rest : List Char) :
    Reads unicodeEscape
      ('0' :: '0' :: hexDigit (c.toNat / 16) :: hexDigit (c.toNat % 16) :: rest) c rest := by
  have number : hexNumber ['0', '0', hexDigit (c.toNat / 16), hexDigit (c.toNat % 16)]
      = some c.toNat := by
    rw [hexNumber_pair (by omega) (by omega)]
    congr 1
    omega
  -- it is no half of a surrogate pair
  have notLow : isLowSurrogate c.toNat = false := by simp [isLowSurrogate]; omega
  have notHigh : isHighSurrogate c.toNat = false := by simp [isHighSurrogate]; omega
  refine (reads_hexUnit _ rest rfl number).bind ?_
  simp only [notLow, notHigh, Bool.false_eq_true, ↓reduceIte, Char.ofNat_toNat]
  exact Reads.pure c rest

theorem reads_escape_short {c d : Char} (notU : d ≠ 'u') (h : shortEscape? d = some c)
    (rest : List Char) : Reads escape (d :: rest) c rest := by
  refine (reads_peek (d :: rest)).bind ?_
  simp only [List.head?_cons, h]
  exact (reads_skip d rest).bind (Reads.pure c rest)

theorem reads_escape_unicode {c : Char} (low : c.toNat < 0x20) (rest : List Char) :
    Reads escape
      ('u' :: '0' :: '0' :: hexDigit (c.toNat / 16) :: hexDigit (c.toNat % 16) :: rest) c rest := by
  refine (reads_peek _).bind ?_
  exact (reads_skip 'u' _).bind (reads_unicodeEscape low rest)

/-! ## Strings -/

/-- One printed character is taken, and the reading goes on behind it. -/
theorem reads_stringFrom_cons {c : Char} {collected cs rest : List Char} {fuel : Nat} {s : String}
    (h : Reads (stringFrom (c :: collected) fuel) cs s rest) :
    Reads (stringFrom collected (fuel + 1)) (escapeChar c ++ cs) s rest := by
  rcases escapeChar_cases c with
    ⟨form, quote, backslash, high⟩ | ⟨d, form, notU, short⟩ | ⟨low, form⟩
  · rw [form, stringFrom]
    refine (reads_peek _).bind ?_
    simp only [List.cons_append, List.nil_append, List.head?_cons, high, ↓reduceIte]
    exact (reads_skip c cs).bind h
  · rw [form, stringFrom]
    refine (reads_peek _).bind ?_
    exact (reads_skip '\\' _).bind ((reads_escape_short notU short cs).bind h)
  · rw [form, stringFrom]
    refine (reads_peek _).bind ?_
    exact (reads_skip '\\' _).bind ((reads_escape_unicode low cs).bind h)

/-- The printed characters of a string are read back up to the closing quote. -/
theorem reads_stringFrom (cs collected rest : List Char) (fuel : Nat) (enough : cs.length < fuel) :
    Reads (stringFrom collected fuel) (cs.flatMap escapeChar ++ '"' :: rest)
      (String.ofList (collected.reverse ++ cs)) rest := by
  -- induction on the characters; what is already collected stands in front of them
  induction cs generalizing collected fuel with
  | nil =>
    obtain ⟨fuel, rfl⟩ : ∃ n, fuel = n + 1 := ⟨fuel - 1, by simp at enough; omega⟩
    rw [stringFrom]
    refine (reads_peek _).bind ?_
    simp only [List.append_nil]
    exact (reads_skip '"' rest).bind (Reads.pure _ rest)
  | cons c cs ih =>
    obtain ⟨fuel, rfl⟩ : ∃ n, fuel = n + 1 := ⟨fuel - 1, by simp at enough; omega⟩
    have behind := ih (c :: collected) fuel (by simp at enough; omega)
    rw [List.flatMap_cons, List.append_assoc]
    simpa using reads_stringFrom_cons behind

theorem length_le_flatMap_escapeChar (cs : List Char) :
    cs.length ≤ (cs.flatMap escapeChar).length := by
  induction cs with
  | nil => simp
  | cons c cs ih =>
    have one : 1 ≤ (escapeChar c).length := by
      rcases escapeChar_cases c with ⟨h, -⟩ | ⟨d, h, -⟩ | ⟨-, h⟩ <;> simp [h]
    simp only [List.length_cons, List.flatMap_cons, List.length_append]
    omega

/-- A printed string is read back, once its opening quote is taken. -/
theorem reads_string (s : String) (rest : List Char) :
    Reads string (s.toList.flatMap escapeChar ++ '"' :: rest) s rest := by
  refine (reads_remaining _).bind ?_
  have enough : s.toList.length < (s.toList.flatMap escapeChar ++ '"' :: rest).length + 1 := by
    have := length_le_flatMap_escapeChar s.toList
    simp only [List.length_append, List.length_cons]
    omega
  simpa using reads_stringFrom s.toList [] rest _ enough

end AdminPanel.Json.Reader
