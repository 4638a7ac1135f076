import AdminPanel.Proofs.Json.Spelling

/-!
# Skipping what nobody reads

A value under an unknown name is passed over whatever it is: the reader keeps a stack of the lists
and objects that are open instead of calling itself, so its nesting has no limit.

## The architecture

* **`Skips`** and **`Settles`** — what the reader does with a text in front of which a value, or the
  end of one, is expected, while some lists and objects are open. Its turns are bounded by the
  length of the text.
* **`skips_of_isText`** — the induction on the grammar: whatever the end of a value settles, the
  value in front of it is skipped. Closing brackets and commas are the cases of `Settles`.
* **`reads_skipValue`** — nothing is open at first, so the reading ends behind the value.
-/

namespace AdminPanel.Json.Reader

/-! ## Strings -/

theorem reads_skipStringFrom {body : List Char} (h : IsBody body) (rest : List Char) (fuel : Nat)
    (enough : body.length < fuel) :
    Reads (skipStringFrom fuel) (body ++ '"' :: rest) () rest := by
  -- induction on what stands between the quotes
  induction h generalizing fuel with
  | nil =>
    obtain ⟨fuel, rfl⟩ : ∃ n, fuel = n + 1 := ⟨fuel - 1, by omega⟩
    rw [skipStringFrom]
    exact (reads_peek _).bind (reads_skip '"' rest)
  | @plain c cs quote backslash high more ih =>
    obtain ⟨fuel, rfl⟩ : ∃ n, fuel = n + 1 := ⟨fuel - 1, by omega⟩
    rw [skipStringFrom]
    refine (reads_peek _).bind ?_
    simp only [List.cons_append, List.head?_cons, high, ↓reduceIte]
    exact (reads_skip c _).bind (ih fuel (by simp at enough; omega))
  | @letter d cs short more ih =>
    obtain ⟨fuel, rfl⟩ : ∃ n, fuel = n + 1 := ⟨fuel - 1, by omega⟩
    obtain ⟨c, short⟩ := Option.isSome_iff_exists.mp short
    have notU : d ≠ 'u' := by
      rintro rfl
      cases short
    rw [skipStringFrom, List.cons_append, List.cons_append]
    refine (reads_peek _).bind ((reads_skip '\\' _).bind ((reads_peek _).bind ?_))
    simp only [List.head?_cons, short]
    exact (reads_skip d _).bind (ih fuel (by simp at enough; omega))
  | @unit digits cs n unit more ih =>
    obtain ⟨fuel, rfl⟩ : ∃ n, fuel = n + 1 := ⟨fuel - 1, by omega⟩
    rw [skipStringFrom, List.append_assoc]
    refine (reads_peek _).bind ((reads_skip '\\' _).bind ((reads_peek _).bind ?_))
    refine (reads_skip 'u' _).bind ?_
    refine (reads_hexUnit digits _ unit.four unit.number).bind (ih fuel ?_)
    simp at enough
    omega

theorem reads_skipString {body : List Char} (h : IsBody body) (rest : List Char) :
    Reads skipString (body ++ '"' :: rest) () rest := by
  refine (reads_remaining _).bind (reads_skipStringFrom h rest _ ?_)
  simp only [List.length_append]
  omega

/-! ## Numbers -/

theorem reads_digits {ds rest : List Char} (all : ∀ d ∈ ds, d.isDigit = true)
    (stop : ∀ c ∈ rest.head?, c.isDigit = false) : Reads digits (ds ++ rest) ds rest := by
  intro p
  have taken : (ds ++ rest).takeWhile Char.isDigit = ds := by
    rw [List.takeWhile_append_of_pos all]
    cases rest with
    | nil => simp
    | cons c cs => simp [stop c (by simp)]
  obtain ⟨p', dropped⟩ := dropWhile_append all stop p
  exact ⟨p', by simp only [digits, taken, dropped]⟩

/-- What follows a number is no part of it. -/
def EndsNumber (rest : List Char) : Prop :=
  ∀ c ∈ rest.head?, c.isDigit = false ∧ c ≠ '.' ∧ c ≠ 'e' ∧ c ≠ 'E'

theorem exists_cons_of_isDigits {ds : List Char} (h : IsDigits ds) :
    ∃ d more, ds = d :: more ∧ d.isDigit = true := by
  obtain ⟨d, more, rfl⟩ := List.exists_cons_of_ne_nil h.some'
  exact ⟨d, more, rfl, h.digits d List.mem_cons_self⟩

/-- The digits of an exponent, one at least. -/
theorem reads_someDigits {ds rest : List Char} (hds : IsDigits ds)
    (stop : ∀ c ∈ rest.head?, c.isDigit = false) :
    Reads (do
      match ← peek with
      | none => fail .invalidNumber
      | some c =>
        if c.isDigit then
          let _ ← digits
        else failNext .invalidNumber) (ds ++ rest) () rest := by
  have all := reads_digits hds.digits stop
  obtain ⟨d, more, rfl, digit⟩ := exists_cons_of_isDigits hds
  refine (reads_peek _).bind ?_
  simp only [List.cons_append, List.head?_cons, digit, ↓reduceIte]
  exact all.bind (Reads.pure () rest)

theorem reads_skipExponent {letter : Char} {sign ds rest : List Char}
    (hsign : sign = [] ∨ sign = ['+'] ∨ sign = ['-']) (hds : IsDigits ds) (ends : EndsNumber rest) :
    Reads skipExponent (letter :: (sign ++ ds) ++ rest) () rest := by
  have behind := reads_someDigits hds fun c hc => (ends c hc).1
  obtain ⟨d, more, rfl, digit⟩ := exists_cons_of_isDigits hds
  rw [List.cons_append, List.append_assoc]
  refine (reads_skip letter _).bind ((reads_peek _).bind ?_)
  rcases hsign with rfl | rfl | rfl
  · have plain : (some d == some '+' || some d == some '-') = false := by
      rw [Bool.or_eq_false_iff, beq_eq_false_iff_ne, beq_eq_false_iff_ne]
      constructor <;> rintro ⟨⟩ <;> cases digit
    simp only [List.nil_append, List.cons_append, List.head?_cons, plain, Bool.false_eq_true,
      ↓reduceIte]
    exact behind
  · exact (reads_skip '+' _).bind behind
  · exact (reads_skip '-' _).bind behind

theorem reads_skipExponentOrEnd {exponent rest : List Char} (h : IsExponent exponent)
    (ends : EndsNumber rest) : Reads skipExponentOrEnd (exponent ++ rest) () rest := by
  refine (reads_peek _).bind ?_
  rcases h with rfl | ⟨letter, sign, ds, rfl, hletter, hsign, hds⟩
  · rw [List.nil_append]
    split
    · next e => exact absurd rfl (ends 'e' (by simp [e])).2.2.1
    · next e => exact absurd rfl (ends 'E' (by simp [e])).2.2.2
    · exact Reads.pure () rest
  · rcases hletter with rfl | rfl <;> exact reads_skipExponent hsign hds ends

/-- An exponent, or what follows a number, goes on with no digit. -/
theorem not_isDigit_head?_exponent {exponent rest : List Char} (h : IsExponent exponent)
    (ends : EndsNumber rest) :
    ∀ c ∈ (exponent ++ rest).head?, c.isDigit = false ∧ c ≠ '.' := by
  rcases h with rfl | ⟨letter, sign, ds, rfl, hletter, -, -⟩
  · exact fun c hc => ⟨(ends c hc).1, (ends c hc).2.1⟩
  · rcases hletter with rfl | rfl <;> simp

/-- The point and the digits behind it, and the exponent. -/
theorem reads_skipFraction {fraction exponent rest : List Char} (hf : IsFraction fraction)
    (he : IsExponent exponent) (ends : EndsNumber rest) :
    Reads (do
      match ← peek with
      | some '.' =>
        skip
        match ← digits with
        | [] => failNext .invalidNumber
        | _ => skipExponentOrEnd
      | _ => skipExponentOrEnd) (fraction ++ (exponent ++ rest)) () rest := by
  have stop := not_isDigit_head?_exponent he ends
  refine (reads_peek _).bind ?_
  rcases hf with rfl | ⟨ds, rfl, hds⟩
  · rw [List.nil_append]
    split
    · next point => exact absurd rfl (stop '.' (by simp [point])).2
    · exact reads_skipExponentOrEnd he ends
  · refine (reads_skip '.' _).bind ?_
    refine (reads_digits hds.digits fun c hc => (stop c hc).1).bind ?_
    obtain ⟨d, more, rfl, -⟩ := exists_cons_of_isDigits hds
    exact reads_skipExponentOrEnd he ends

theorem exists_cons_of_isUnsigned {cs : List Char} (h : IsUnsigned cs) :
    ∃ c more, cs = c :: more ∧ c.isDigit = true := by
  obtain ⟨whole, fraction, exponent, rfl, rfl | ⟨hw, -⟩, -, -⟩ := h
  · exact ⟨'0', _, rfl, rfl⟩
  · obtain ⟨d, more, rfl, digit⟩ := exists_cons_of_isDigits hw
    exact ⟨d, _, rfl, digit⟩

theorem reads_skipNumber {cs rest : List Char} (h : IsUnsigned cs) (ends : EndsNumber rest) :
    Reads skipNumber (cs ++ rest) () rest := by
  obtain ⟨whole, fraction, exponent, rfl, hw, hf, he⟩ := h
  have behind := reads_skipFraction hf he ends
  have stop : ∀ c ∈ (fraction ++ (exponent ++ rest)).head?, c.isDigit = false := by
    rcases hf with rfl | ⟨ds, rfl, -⟩
    · exact fun c hc => (not_isDigit_head?_exponent he ends c hc).1
    · simp
  rw [List.append_assoc, List.append_assoc]
  generalize fraction ++ (exponent ++ rest) = tail at behind stop
  -- a zero is not followed by a digit; any other number is a run of digits
  rcases hw with rfl | ⟨hds, nonzero⟩
  · rw [List.singleton_append]
    refine (reads_peek _).bind ((reads_skip '0' _).bind ((reads_peek _).bind ?_))
    split
    · next c next' =>
      rw [stop c next', if_neg (by simp)]
      exact behind
    · exact behind
  · have all := reads_digits hds.digits stop
    obtain ⟨d, more, rfl, digit⟩ := exists_cons_of_isDigits hds
    have first : d ≠ '0' := by simpa using nonzero
    rw [List.cons_append] at all ⊢
    refine (reads_peek _).bind ?_
    simp only [List.head?_cons, digit, first, Bool.not_true, Bool.false_eq_true, ↓reduceIte]
    exact all.bind behind

/-! ## Open lists and objects

Behind a value stand the ends of lists and objects, and at last a comma or nothing that is open. -/

variable {stack : List Bool} {cs tail rest : List Char}

/-- While some lists and objects are open, the values up to the end of the outermost are skipped. -/
def Skips (stack : List Bool) (cs rest : List Char) : Prop :=
  ∀ fuel, cs.length < fuel → Reads (skipFrom stack fuel) cs () rest

/-- What follows a value closes everything that is open, or some of it and goes on behind a comma. -/
def Settles (stack : List Bool) (cs rest : List Char) : Prop :=
  ∃ still mid, (∀ turns, cs.length < turns → Reads (closeOpen stack turns) cs still mid) ∧
    mid.length ≤ cs.length ∧ ((still = [] ∧ mid = rest) ∨ (still ≠ [] ∧ Skips still mid rest))

/-- The reader behind a value. -/
def settle (stack : List Bool) (fuel : Nat) : Reader Unit := do
  match ← closeOpen stack ((← remaining) + 1) with
  | [] => pure ()
  | still => skipFrom still fuel

theorem Settles.reads (h : Settles stack cs rest) {fuel : Nat} (enough : cs.length < fuel) :
    Reads (settle stack fuel) cs () rest := by
  obtain ⟨still, mid, closes, shorter, goesOn⟩ := h
  refine (reads_remaining cs).bind ((closes _ (by omega)).bind ?_)
  rcases goesOn with ⟨rfl, rfl⟩ | ⟨some', skips⟩
  · exact Reads.pure () mid
  · obtain ⟨b, more, rfl⟩ := List.exists_cons_of_ne_nil some'
    exact skips fuel (by omega)

theorem settles_nil (cs : List Char) : Settles [] cs cs := by
  refine ⟨[], cs, fun turns _ => ?_, Nat.le_refl _, .inl ⟨rfl, rfl⟩⟩
  rw [closeOpen]
  exact Reads.pure [] cs

theorem not_isSeparator_head? {c : Char} (h : isSeparator c = false) :
    ∀ d ∈ (c :: cs).head?, isSeparator d = false := by
  simpa using h

/-- Separators in front of a token are passed over. -/
theorem reads_peekToken_gap {g : List Char} (gap : IsGap g) {c : Char} (h : isSeparator c = false)
    (cs : List Char) : Reads peekToken (g ++ c :: cs) (some c) (c :: cs) :=
  reads_peekToken g (c :: cs) gap (not_isSeparator_head? h)

/-- The bracket at the end of a list or of an object. -/
def closing (inList : Bool) : Char := if inList then ']' else '\x7d'

theorem Settles.close (h : Settles stack tail rest) (inList : Bool) {g : List Char}
    (gap : IsGap g) : Settles (inList :: stack) (g ++ closing inList :: tail) rest := by
  obtain ⟨still, mid, closes, shorter, goesOn⟩ := h
  refine ⟨still, mid, fun turns enough => ?_, ?_, goesOn⟩
  · obtain ⟨turns, rfl⟩ : ∃ n, turns = n + 1 := ⟨turns - 1, by omega⟩
    have behind := closes turns (by simp at enough; omega)
    rw [closeOpen]
    cases inList with
    | true => exact (reads_peekToken_gap gap rfl tail).bind ((reads_skip ']' tail).bind behind)
    | false => exact (reads_peekToken_gap gap rfl tail).bind ((reads_skip '\x7d' tail).bind behind)
  · simp only [List.length_append, List.length_cons]
    omega

/-- A comma in a list stands in front of the next item. -/
theorem Skips.settles_item (h : Skips (true :: stack) cs rest) {g : List Char} (gap : IsGap g) :
    Settles (true :: stack) (g ++ ',' :: cs) rest := by
  refine ⟨true :: stack, cs, fun turns enough => ?_, ?_, .inr ⟨by simp, h⟩⟩
  · obtain ⟨turns, rfl⟩ : ∃ n, turns = n + 1 := ⟨turns - 1, by omega⟩
    rw [closeOpen]
    exact (reads_peekToken_gap gap rfl cs).bind ((reads_skip ',' cs).bind (Reads.pure _ cs))
  · simp only [List.length_append, List.length_cons]
    omega

/-- The text of a name and its colon, and of what follows them. -/
def nameText (n g cs : List Char) : List Char := '"' :: (n ++ '"' :: (g ++ ':' :: cs))

theorem reads_colon {g : List Char} (gap : IsGap g) (cs : List Char) :
    Reads colon (g ++ ':' :: cs) () cs :=
  (reads_peekToken_gap gap rfl cs).bind (reads_skip ':' cs)

theorem reads_skipName {n g₁ g₂ : List Char} (gap₁ : IsGap g₁) (name : IsBody n)
    (gap₂ : IsGap g₂) (cs : List Char) : Reads skipName (g₁ ++ nameText n g₂ cs) () cs := by
  refine (reads_peekToken_gap gap₁ rfl _).bind ?_
  refine (reads_skip '"' _).bind ?_
  exact (reads_skipString name _).bind (reads_colon gap₂ cs)

/-- A comma in an object stands in front of the next name. -/
theorem Skips.settles_member (h : Skips (false :: stack) cs rest) {n g₁ g₂ g₃ : List Char}
    (gap₁ : IsGap g₁) (gap₂ : IsGap g₂) (name : IsBody n) (gap₃ : IsGap g₃) :
    Settles (false :: stack) (g₁ ++ ',' :: (g₂ ++ nameText n g₃ cs)) rest := by
  refine ⟨false :: stack, cs, fun turns enough => ?_, ?_, .inr ⟨by simp, h⟩⟩
  · obtain ⟨turns, rfl⟩ : ∃ n, turns = n + 1 := ⟨turns - 1, by omega⟩
    rw [closeOpen]
    refine (reads_peekToken_gap gap₁ rfl _).bind ((reads_skip ',' _).bind ?_)
    exact (reads_skipName gap₂ name gap₃ cs).bind (Reads.pure _ cs)
  · simp only [nameText, List.length_append, List.length_cons]
    omega

/-! ## Values -/

theorem endsNumber_gap {g : List Char} (gap : IsGap g) {c : Char}
    (stop : c = ',' ∨ c = ']' ∨ c = '\x7d') : EndsNumber (g ++ c :: cs) := by
  intro d hd
  cases g with
  | nil =>
    cases hd
    rcases stop with rfl | rfl | rfl <;> decide
  | cons s g =>
    have sep := gap s List.mem_cons_self
    cases hd
    simp only [isSeparator, Bool.or_eq_true, beq_iff_eq] at sep
    rcases sep with ((rfl | rfl) | rfl) | rfl <;> decide

/-- How a text of each shape is skipped in front of what settles it. -/
def Skipped : Shape → List Char → Prop
  | .value, v => ∀ {g stack tail rest}, IsGap g → EndsNumber tail → Settles stack tail rest →
      Skips stack (g ++ (v ++ tail)) rest
  | .items, is => ∀ {g stack tail rest}, IsGap g → Settles stack tail rest →
      Skips (true :: stack) (g ++ (is ++ ']' :: tail)) rest
  | .members, ms => ∀ {stack tail rest}, Settles stack tail rest →
      ∃ n g cs, ms ++ '\x7d' :: tail = nameText n g cs ∧ IsBody n ∧ IsGap g ∧
        Skips (false :: stack) cs rest

/-- A literal name is taken character by character. -/
theorem reads_literal (word tail : List Char) : Reads (literal word) (word ++ tail) () tail := by
  induction word with
  | nil => exact Reads.pure () tail
  | cons c word ih =>
    refine (reads_peek _).bind ?_
    simp only [List.cons_append, List.head?_cons, ↓reduceIte]
    exact (reads_skip c _).bind ih

/-- The first character of a value tells it from a separator and from the end of a list. -/
theorem exists_cons_of_value {v : List Char} (h : IsText .value v) :
    ∃ c more, v = c :: more ∧ isSeparator c = false ∧ c ≠ ']' := by
  have number {cs : List Char} (h : IsUnsigned cs) :
      ∃ c more, cs = c :: more ∧ isSeparator c = false ∧ c ≠ ']' := by
    obtain ⟨c, more, rfl, digit⟩ := exists_cons_of_isUnsigned h
    refine ⟨c, more, rfl, ?_, ?_⟩
    · simp only [isSeparator, Bool.or_eq_false_iff, beq_eq_false_iff_ne]
      refine ⟨⟨⟨?_, ?_⟩, ?_⟩, ?_⟩ <;> (rintro rfl; cases digit)
    · rintro rfl
      cases digit
  cases h with
  | number h => exact number h
  | null | true | false | negative | string | emptyList | list | emptyObject | object =>
    exact ⟨_, _, rfl, rfl, by decide⟩

theorem exists_cons_of_items {cs : List Char} (h : IsText .items cs) :
    ∃ c more, cs = c :: more ∧ isSeparator c = false ∧ c ≠ ']' := by
  cases h with
  | lastItem item | item item =>
    obtain ⟨c, more, rfl, first⟩ := exists_cons_of_value item
    exact ⟨c, _, rfl, first⟩

theorem Skips.of_turn (h : ∀ fuel, cs.length ≤ fuel → Reads (skipFrom stack (fuel + 1)) cs () rest) :
    Skips stack cs rest := by
  intro fuel enough
  obtain ⟨fuel, rfl⟩ : ∃ n, fuel = n + 1 := ⟨fuel - 1, by omega⟩
  exact h fuel (by omega)

theorem skipped_unsigned {v : List Char} (number : IsUnsigned v) : Skipped .value v := by
  intro g stack tail rest gap ends settles
  have all := reads_skipNumber number ends
  obtain ⟨d, more, rfl, digit⟩ := exists_cons_of_isUnsigned number
  have sep : isSeparator d = false := by
    obtain ⟨c, cs, h, sep, -⟩ := exists_cons_of_value (.number number)
    cases h
    exact sep
  refine Skips.of_turn fun fuel enough => ?_
  rw [skipFrom]
  rw [List.cons_append] at all ⊢
  refine (reads_peekToken_gap gap sep _).bind ?_
  have word : d ≠ 'n' ∧ d ≠ 't' ∧ d ≠ 'f' ∧ d ≠ '-' ∧ d ≠ '"' ∧ d ≠ '[' ∧ d ≠ '\x7b' := by
    refine ⟨?_, ?_, ?_, ?_, ?_, ?_, ?_⟩ <;> (rintro rfl; cases digit)
  obtain ⟨n, t, f, minus, quote, bracket, brace⟩ := word
  simp only [digit, ↓reduceIte]
  refine all.bind (settles.reads ?_)
  simp at enough
  omega

/-- A value that its first character tells, and that one reader takes behind it. -/
theorem skipped_scalar {c : Char} {text : List Char} {r : Reader Unit}
    (turn : ∀ {stack fuel g cs rest}, IsGap g → Reads (do skip; r; settle stack fuel) (c :: cs) ()
      rest → Reads (skipFrom stack (fuel + 1)) (g ++ c :: cs) () rest)
    (reads : ∀ tail, EndsNumber tail → Reads r (text ++ tail) () tail) :
    Skipped .value (c :: text) := by
  intro g stack tail rest gap ends settles
  refine Skips.of_turn fun fuel enough => turn gap ?_
  refine (reads_skip c _).bind ((reads tail ends).bind (settles.reads ?_))
  simp only [List.length_append, List.length_cons] at enough
  omega

/-- The first item stands behind the opening bracket, the others behind commas. -/
theorem skips_list {g cs : List Char} (gap : IsGap g) (first : ∃ c more, cs = c :: more ∧
    isSeparator c = false ∧ c ≠ ']') (h : Skips (true :: stack) cs rest) {g' : List Char}
    (gap' : IsGap g') : Skips stack (g' ++ '[' :: (g ++ cs)) rest := by
  obtain ⟨c, more, rfl, sep, open'⟩ := first
  refine Skips.of_turn fun fuel enough => ?_
  rw [skipFrom]
  refine (reads_peekToken_gap gap' rfl _).bind ((reads_skip '[' _).bind ?_)
  refine (reads_peekToken_gap gap sep more).bind ?_
  simp only
  refine h fuel ?_
  simp only [List.length_append, List.length_cons] at enough ⊢
  omega

theorem skips_object {n g₁ g₂ g₃ : List Char} (gap₁ : IsGap g₁) (gap₂ : IsGap g₂) (name : IsBody n)
    (gap₃ : IsGap g₃) (h : Skips (false :: stack) cs rest) :
    Skips stack (g₁ ++ '\x7b' :: (g₂ ++ nameText n g₃ cs)) rest := by
  refine Skips.of_turn fun fuel enough => ?_
  rw [skipFrom]
  refine (reads_peekToken_gap gap₁ rfl _).bind ((reads_skip '\x7b' _).bind ?_)
  refine (reads_peekToken_gap gap₂ rfl _).bind ?_
  refine (reads_skipName isGap_nil name gap₃ cs).bind ?_
  refine h fuel ?_
  simp only [nameText, List.length_append, List.length_cons] at enough
  omega

/-- **Every text of the grammar is skipped**, up to what settles it. -/
theorem skips_of_isText {shape : Shape} {cs : List Char} (h : IsText shape cs) :
    Skipped shape cs := by
  -- on the text; an item settles the brackets behind it, so that no recursion into them is needed
  induction h with
  | null =>
    refine skipped_scalar (fun gap h => ?_) fun tail _ => reads_literal ['u', 'l', 'l'] tail
    rw [skipFrom]
    exact (reads_peekToken_gap gap rfl _).bind h
  | true =>
    refine skipped_scalar (fun gap h => ?_) fun tail _ => reads_literal ['r', 'u', 'e'] tail
    rw [skipFrom]
    exact (reads_peekToken_gap gap rfl _).bind h
  | false =>
    refine skipped_scalar (fun gap h => ?_) fun tail _ => reads_literal ['a', 'l', 's', 'e'] tail
    rw [skipFrom]
    exact (reads_peekToken_gap gap rfl _).bind h
  | number number => exact skipped_unsigned number
  | negative number =>
    refine skipped_scalar (fun gap h => ?_) fun tail ends => reads_skipNumber number ends
    rw [skipFrom]
    exact (reads_peekToken_gap gap rfl _).bind h
  | string body =>
    refine skipped_scalar (fun gap h => ?_) fun tail _ => by simpa using reads_skipString body tail
    rw [skipFrom]
    exact (reads_peekToken_gap gap rfl _).bind h
  | emptyList gap' =>
    intro g stack tail rest gap ends settles
    rw [List.cons_append, List.append_assoc, List.singleton_append]
    refine Skips.of_turn fun fuel enough => ?_
    rw [skipFrom]
    refine (reads_peekToken_gap gap rfl _).bind ((reads_skip '[' _).bind ?_)
    refine (reads_peekToken_gap gap' rfl tail).bind ((reads_skip ']' _).bind (settles.reads ?_))
    simp only [List.length_append, List.length_cons] at enough
    omega
  | emptyObject gap' =>
    intro g stack tail rest gap ends settles
    rw [List.cons_append, List.append_assoc, List.singleton_append]
    refine Skips.of_turn fun fuel enough => ?_
    rw [skipFrom]
    refine (reads_peekToken_gap gap rfl _).bind ((reads_skip '\x7b' _).bind ?_)
    refine (reads_peekToken_gap gap' rfl tail).bind ((reads_skip '\x7d' _).bind (settles.reads ?_))
    simp only [List.length_append, List.length_cons] at enough
    omega
  | list gap' items ih =>
    intro g stack tail rest gap ends settles
    rw [List.cons_append, List.append_assoc, List.append_assoc, List.singleton_append]
    refine skips_list gap' ?_ (by simpa using ih isGap_nil settles) gap
    obtain ⟨c, more, rfl, sep, open'⟩ := exists_cons_of_items items
    exact ⟨c, _, rfl, sep, open'⟩
  | object gap' members ih =>
    intro g stack tail rest gap ends settles
    rw [List.cons_append, List.append_assoc, List.append_assoc, List.singleton_append]
    obtain ⟨n, g₁, cs, text, name, gap₁, skips⟩ := ih settles
    rw [text]
    exact skips_object gap gap' name gap₁ skips
  | lastItem item gap' ih =>
    intro g stack tail rest gap settles
    rw [List.append_assoc]
    exact ih gap (endsNumber_gap gap' (.inr (.inl rfl))) (settles.close true gap')
  | item item gap₁ gap₂ more ihItem ihMore =>
    intro g stack tail rest gap settles
    have behind := (ihMore gap₂ settles).settles_item gap₁
    have next := ihItem gap (endsNumber_gap gap₁ (.inl rfl)) behind
    simpa using next
  | lastMember name gap₁ gap₂ item gap₃ ih =>
    intro stack tail rest settles
    have skips := ih gap₂ (endsNumber_gap gap₃ (.inr (.inr rfl))) (settles.close false gap₃)
    exact ⟨_, _, _, by simp [nameText], name, gap₁, skips⟩
  | member name gap₁ gap₂ item gap₃ gap₄ more ihItem ihMore =>
    intro stack tail rest settles
    obtain ⟨n, g₁, cs, text, name', gap₁', skips⟩ := ihMore settles
    have behind := skips.settles_member gap₃ gap₄ name' gap₁'
    have next := ihItem gap₂ (endsNumber_gap gap₃ (.inl rfl)) behind
    exact ⟨_, _, _, by simp [nameText, text], name, gap₁, next⟩

/-- A value that nobody reads is skipped to its end. -/
theorem reads_skipValue {g v tail : List Char} (gap : IsGap g) (h : IsText .value v)
    (ends : EndsNumber tail) : Reads skipValue (g ++ (v ++ tail)) () tail := by
  refine (reads_remaining _).bind ?_
  exact skips_of_isText h gap ends (settles_nil tail) _ (Nat.lt_succ_self _)

end AdminPanel.Json.Reader
