import AdminPanel.Proofs.Json.Skipping
import AdminPanel.Proofs.Json.Taking

/-!
# Numbers as they are written

A number stands in a document in parts: its sign, the digits in front of the point and behind it, and an
exponent. What it counts as is told here by its parts, as a whole: how many of the digits the significand
holds, and how the rest of them and the exponent scale it. Too large a number counts as nothing.

* **`Numeral`** — the parts behind the sign; `Numeral.value?` is what they count as.
* **`reads_number`** — a numeral is read as what it counts as, if nothing behind it goes on with it.
* **`numeral_of_number`** — what has been read as a number is a numeral that counts as it.
-/

namespace AdminPanel.Json

open Decimal (Binary64)
open Reader (takeDigits exponentLimit clampExponent)

/-! ## Numerals -/

/-- An exponent: its letter, perhaps a sign, and its digits. -/
structure Exponent where
  letter : Char
  sign : List Char
  digits : List Char

namespace Exponent

def chars (e : Exponent) : List Char := e.letter :: (e.sign ++ e.digits)

structure WellFormed (e : Exponent) : Prop where
  letter : e.letter = 'e' ∨ e.letter = 'E'
  sign : e.sign = [] ∨ e.sign = ['+'] ∨ e.sign = ['-']
  digits : IsDigits e.digits

/-- The number that the digits write. -/
def size (e : Exponent) : Nat := Nat.ofDigitChars 10 e.digits 0

end Exponent

/-- A number behind its sign, in its parts. Without digits behind it there is no point. -/
structure Numeral where
  whole : List Char
  fraction : List Char := []
  exponent : Option Exponent := none

namespace Numeral

def fractionChars (n : Numeral) : List Char :=
  if n.fraction = [] then [] else '.' :: n.fraction

def exponentChars (n : Numeral) : List Char := n.exponent.elim [] Exponent.chars

def chars (n : Numeral) : List Char := n.whole ++ (n.fractionChars ++ n.exponentChars)

structure WellFormed (n : Numeral) : Prop where
  whole : IsWhole n.whole
  fraction : ∀ d ∈ n.fraction, d.isDigit = true
  exponent : ∀ e ∈ n.exponent, e.WellFormed

end Numeral

/-- The number of a significand and a power of ten, if it is in range. -/
def real? (positive : Bool) (significand : Nat) (exponent : Int) : Option Number :=
  (ofParts positive significand exponent).map .real

/-- A significand, scaled by a power of ten and by an exponent. An exponent beyond all limits gives zero, or
nothing. -/
def scaled? (positive : Bool) (significand : Nat) (start : Int) : Option Exponent → Option Number
  | none => real? positive significand start
  | some e =>
    if e.size < exponentLimit then
      real? positive significand
        (clampExponent (if e.sign = ['-'] then start - e.size else start + e.size))
    else if significand ≠ 0 ∧ e.sign ≠ ['-'] then none
    else some (.real (if positive then .zero else Binary64.zero.negate))

/-- What a numeral counts as. Digits that the significand does not hold scale it if they stand in front of
the point, and are dropped behind it. -/
def Numeral.value? (positive : Bool) (n : Numeral) : Option Number :=
  let whole := takeDigits 0 n.whole
  if n.fraction = [] ∧ n.exponent = none ∧ whole.2.2 = [] then some (.whole positive whole.1)
  else
    let both := takeDigits whole.1 n.fraction
    scaled? positive both.1 (whole.2.2.length - both.2.1) n.exponent

theorem le_ofDigitChars (ds : List Char) (v : Nat) : v ≤ Nat.ofDigitChars 10 ds v := by
  induction ds generalizing v with
  | nil => exact Nat.le_refl v
  | cons d ds ih =>
    have step := ih (10 * v + (d.toNat - '0'.toNat))
    rw [Nat.ofDigitChars_cons]
    omega

theorem digitValue_lt {d : Char} (h : d.isDigit = true) : digitValue d < 10 := by
  have zero : '0'.val.toNat = 48 := rfl
  have nine : '9'.val.toNat = 57 := rfl
  simp only [Char.isDigit, Bool.and_eq_true, decide_eq_true_eq, UInt32.le_iff_toNat_le] at h
  show d.val.toNat - '0'.val.toNat < 10
  omega

/-- While the significand holds them, digits are taken as what they write. -/
theorem takeDigits_of_lt {v : Nat} {ds : List Char} (h : Nat.ofDigitChars 10 ds v < significandLimit) :
    takeDigits v ds = (Nat.ofDigitChars 10 ds v, ds.length, []) := by
  induction ds generalizing v with
  | nil => rfl
  | cons d ds ih =>
    rw [Nat.ofDigitChars_cons] at h ⊢
    have next : v * 10 + digitValue d = 10 * v + (d.toNat - '0'.toNat) := by
      rw [Nat.mul_comm, digitValue]
    have holds := Nat.lt_of_le_of_lt (le_ofDigitChars ds _) h
    rw [takeDigits]
    simp only [next, holds, ↓reduceIte, ih h, List.length_cons]

/-! ## Reading a numeral -/

namespace Reader

variable {positive : Bool} {s : Nat} {start : Int} {n : Number} {rest : List Char}

theorem reads_parts (h : real? positive s start = some n) (cs : List Char) :
    Reads (parts positive s start) cs n cs := by
  obtain ⟨x, inRange, rfl⟩ := Option.map_eq_some_iff.mp h
  unfold parts
  rw [inRange]
  exact Reads.pure _ cs

/-- The digits of an exponent are counted until they exceed the limit. -/
theorem reads_exponentDigits {ds : List Char} (all : ∀ d ∈ ds, d.isDigit = true)
    (stop : ∀ c ∈ rest.head?, c.isDigit = false) (v fuel : Nat) (enough : ds.length ≤ fuel)
    (below : v < exponentLimit) :
    (Nat.ofDigitChars 10 ds v < exponentLimit ∧
      Reads (exponentDigits v fuel) (ds ++ rest) (some (Nat.ofDigitChars 10 ds v)) rest) ∨
    (exponentLimit ≤ Nat.ofDigitChars 10 ds v ∧ ∃ front back, ds = front ++ back ∧
      Reads (exponentDigits v fuel) (ds ++ rest) none (back ++ rest)) := by
  -- induction on the digits, with what those before them write
  induction ds generalizing v fuel with
  | nil =>
    refine .inl ⟨below, ?_⟩
    cases fuel with
    | zero => exact Reads.pure _ rest
    | succ fuel =>
      refine (reads_peek _).bind ?_
      rw [List.nil_append]
      split
      · next c first =>
        rw [stop c first, if_neg (by simp)]
        exact Reads.pure _ rest
      · exact Reads.pure _ rest
  | cons d ds ih =>
    obtain ⟨fuel, rfl⟩ : ∃ n, fuel = n + 1 := ⟨fuel - 1, by simp at enough; omega⟩
    have digit : d.isDigit = true := all d List.mem_cons_self
    have next : v * 10 + digitValue d = 10 * v + (d.toNat - '0'.toNat) := by
      rw [Nat.mul_comm, digitValue]
    have turn {result : Option Nat} {left : List Char}
        (h : Reads (if exponentLimit ≤ v * 10 + digitValue d then Pure.pure none
          else exponentDigits (v * 10 + digitValue d) fuel) (ds ++ rest) result left) :
        Reads (exponentDigits v (fuel + 1)) (d :: ds ++ rest) result left := by
      refine (reads_peek _).bind ?_
      simp only [List.cons_append, List.head?_cons, digit, ↓reduceIte]
      exact (reads_skip d _).bind h
    rw [Nat.ofDigitChars_cons]
    rcases Nat.lt_or_ge (v * 10 + digitValue d) exponentLimit with inside | beyond
    · rcases ih (fun e within => all e (List.mem_cons_of_mem d within)) _ fuel (by simpa using enough)
        inside with ⟨small, reads⟩ | ⟨large, front, back, rfl, reads⟩
      · rw [next] at small reads
        refine .inl ⟨small, turn ?_⟩
        rw [if_neg (Nat.not_le.mpr inside), next]
        exact reads
      · rw [next] at large reads
        refine .inr ⟨large, d :: front, back, rfl, turn ?_⟩
        rw [if_neg (Nat.not_le.mpr inside), next]
        exact reads
    · have large : exponentLimit ≤ Nat.ofDigitChars 10 ds (10 * v + (d.toNat - '0'.toNat)) := by
        rw [next] at beyond
        exact Nat.le_trans beyond (le_ofDigitChars ds _)
      refine .inr ⟨large, [d], ds, rfl, turn ?_⟩
      rw [if_pos beyond]
      exact Reads.pure none _

/-- The size of an exponent, by its first digit and the others. -/
theorem size_cons {letter d : Char} {sign ds : List Char} :
    Exponent.size ⟨letter, sign, d :: ds⟩ = Nat.ofDigitChars 10 ds (digitValue d) := by
  rw [Exponent.size, Nat.ofDigitChars_cons, Nat.mul_zero, Nat.zero_add, digitValue]

/-- What a number is with its exponent, if the digits of that have been counted. -/
def exponentEnd (positive positiveExponent : Bool) (s : Nat) (start : Int) :
    Option Nat → Reader Number
  | some e => parts positive s (clampExponent (if positiveExponent then start + e else start - e))
  | none =>
    if s ≠ 0 ∧ positiveExponent then fail .numberOutOfRange
    else do
      let _ ← digits
      Pure.pure (.real (if positive then .zero else Binary64.zero.negate))

/-- An exponent behind its sign. -/
def exponentValue (positive positiveExponent : Bool) (s : Nat) (start : Int) : Reader Number := do
  match ← peek with
  | none => fail .endInValue
  | some c =>
    if !c.isDigit then failNext .invalidNumber
    else
      skip
      exponentEnd positive positiveExponent s start
        (← exponentDigits (digitValue c) (← remaining))

theorem exponentPart_eq (positive : Bool) (s : Nat) (start : Int) :
    exponentPart positive s start = (do
      skip
      let sign ← peek
      if sign == some '+' || sign == some '-' then skip
      exponentValue positive (sign != some '-') s start) := by
  unfold exponentPart exponentValue exponentEnd
  rfl

/-- The digits of an exponent, and what the number is with them. -/
theorem reads_exponentValue {letter d : Char} {sign ds : List Char} {positiveExponent : Bool}
    (wellFormed : Exponent.WellFormed ⟨letter, sign, d :: ds⟩)
    (agrees : positiveExponent = true ↔ sign ≠ ['-']) (stop : ∀ c ∈ rest.head?, c.isDigit = false)
    (h : scaled? positive s start (some ⟨letter, sign, d :: ds⟩) = some n) :
    Reads (exponentValue positive positiveExponent s start) (d :: ds ++ rest) n rest := by
  have all : ∀ e ∈ ds, e.isDigit = true := fun e within =>
    wellFormed.digits.digits e (List.mem_cons_of_mem d within)
  have digit : d.isDigit = true := wellFormed.digits.digits d List.mem_cons_self
  have small : digitValue d < exponentLimit :=
    Nat.lt_trans (digitValue_lt (wellFormed.digits.digits d List.mem_cons_self)) (by decide)
  have behind {result : Option Nat} {left : List Char}
      (reads : Reads (exponentDigits (digitValue d) (ds ++ rest).length) (ds ++ rest) result left)
      (ends : Reads (exponentEnd positive positiveExponent s start result) left n rest) :
      Reads (exponentValue positive positiveExponent s start) (d :: ds ++ rest) n rest := by
    refine (reads_peek _).bind ?_
    simp only [List.cons_append, List.head?_cons, digit, Bool.not_true, Bool.false_eq_true, ↓reduceIte]
    exact (reads_skip d _).bind ((reads_remaining _).bind (reads.bind ends))
  have enough : ds.length ≤ (ds ++ rest).length := by
    rw [List.length_append]
    exact Nat.le_add_right _ _
  rw [scaled?, size_cons] at h
  -- an exponent that does not fit is read to its end, and the number is zero or out of range
  rcases reads_exponentDigits all stop (digitValue d) _ enough small with
    ⟨below, reads⟩ | ⟨beyond, front, back, rfl, reads⟩
  · refine behind reads ?_
    rw [if_pos below] at h
    have sum : (if positiveExponent then start + (Nat.ofDigitChars 10 ds (digitValue d) : Int)
        else start - Nat.ofDigitChars 10 ds (digitValue d)) =
        if sign = ['-'] then start - Nat.ofDigitChars 10 ds (digitValue d)
        else start + Nat.ofDigitChars 10 ds (digitValue d) := by
      by_cases minus : sign = ['-']
      · rw [if_pos minus, if_neg (by rw [agrees]; exact fun plus => plus minus)]
      · rw [if_neg minus, if_pos (agrees.mpr minus)]
    rw [exponentEnd, sum]
    exact reads_parts h rest
  · refine behind reads ?_
    rw [if_neg (Nat.not_lt.mpr beyond)] at h
    split at h
    · cases h
    · next inRange =>
      cases h
      rw [exponentEnd, if_neg fun large => inRange ⟨large.1, agrees.mp large.2⟩]
      refine (reads_digits (fun e within => all e (List.mem_append_right front within)) stop).bind ?_
      exact Reads.pure _ rest

theorem reads_exponentPart {e : Exponent} (wellFormed : e.WellFormed)
    (stop : ∀ c ∈ rest.head?, c.isDigit = false) (h : scaled? positive s start (some e) = some n) :
    Reads (exponentPart positive s start) (e.chars ++ rest) n rest := by
  obtain ⟨letter, sign, ds⟩ := e
  obtain ⟨d, more, rfl, digit⟩ := exists_cons_of_isDigits wellFormed.digits
  have value (positiveExponent : Bool) (agrees : positiveExponent = true ↔ sign ≠ ['-']) :=
    reads_exponentValue wellFormed agrees stop h
  rw [exponentPart_eq, Exponent.chars, List.cons_append, List.append_assoc]
  refine (reads_skip letter _).bind ((reads_peek _).bind ?_)
  rcases wellFormed.sign with rfl | rfl | rfl
  -- without a sign the next character is a digit, which is neither sign
  · have notMinus : d ≠ '-' := by
      rintro rfl
      cases digit
    have notPlus : d ≠ '+' := by
      rintro rfl
      cases digit
    have unsigned : (some d != some '-') = true := by simpa using notMinus
    have plain : (some d == some '+' || some d == some '-') = false := by simp [notPlus, notMinus]
    simp only [List.nil_append, List.cons_append, List.head?_cons, plain, Bool.false_eq_true,
      ↓reduceIte]
    exact value _ (by simp [unsigned])
  · exact (reads_skip '+' _).bind (value true (by decide))
  · exact (reads_skip '-' _).bind (value false (by decide))

theorem reads_exponentOrEnd {e : Option Exponent} (wellFormed : ∀ x ∈ e, x.WellFormed)
    (ends : EndsNumber rest) (h : scaled? positive s start e = some n) :
    Reads (exponentOrEnd positive s start) (e.elim [] Exponent.chars ++ rest) n rest := by
  refine (reads_peek _).bind ?_
  cases e with
  | none =>
    rw [Option.elim_none, List.nil_append]
    split
    · next letter => exact absurd rfl (ends 'e' letter).2.2.1
    · next letter => exact absurd rfl (ends 'E' letter).2.2.2
    · exact reads_parts h rest
  | some e =>
    have part := reads_exponentPart (wellFormed e rfl) (fun c first => (ends c first).1) h
    rw [Option.elim_some]
    have first : (e.chars ++ rest).head? = some e.letter := rfl
    rcases (wellFormed e rfl).letter with letter | letter
    · rw [first, letter]
      exact part
    · rw [first, letter]
      exact part

/-- An exponent, or what follows a number, goes on with no digit and no point. -/
theorem not_isDigit_head?_elim {e : Option Exponent} (wellFormed : ∀ x ∈ e, x.WellFormed)
    (ends : EndsNumber rest) :
    ∀ c ∈ (e.elim [] Exponent.chars ++ rest).head?, c.isDigit = false ∧ c ≠ '.' := by
  intro c first
  cases e with
  | none => exact ⟨(ends c first).1, (ends c first).2.1⟩
  | some e =>
    obtain rfl : e.letter = c := Option.some.inj first
    rcases (wellFormed e rfl).letter with letter | letter <;> rw [letter] <;> decide

theorem reads_fractionPart {fraction : List Char} {e : Option Exponent} (hf : IsDigits fraction)
    (wellFormed : ∀ x ∈ e, x.WellFormed) (ends : EndsNumber rest)
    (h : scaled? positive (takeDigits s fraction).1 (start - (takeDigits s fraction).2.1) e = some n) :
    Reads (fractionPart positive s start)
      ('.' :: fraction ++ (e.elim [] Exponent.chars ++ rest)) n rest := by
  have stop := not_isDigit_head?_elim wellFormed ends
  unfold fractionPart
  refine (reads_skip '.' _).bind ?_
  refine (reads_digits hf.digits fun c first => (stop c first).1).bind ?_
  obtain ⟨d, more, rfl, -⟩ := exists_cons_of_isDigits hf
  exact reads_exponentOrEnd wellFormed ends h

/-- What is made of the digits in front of the point, by what follows them. -/
def numberFrom (positive : Bool) (whole : List Char) : Reader Number := do
  match ← peek with
  | some '.' => fractionPart positive (takeDigits 0 whole).1 (takeDigits 0 whole).2.2.length
  | some 'e' | some 'E' => exponentPart positive (takeDigits 0 whole).1 (takeDigits 0 whole).2.2.length
  | _ =>
    if (takeDigits 0 whole).2.2.isEmpty then Pure.pure (Number.whole positive (takeDigits 0 whole).1)
    else parts positive (takeDigits 0 whole).1 (takeDigits 0 whole).2.2.length

theorem reads_numberFrom {num : Numeral} (wellFormed : num.WellFormed) (ends : EndsNumber rest)
    (h : num.value? positive = some n) :
    Reads (numberFrom positive num.whole) (num.fractionChars ++ (num.exponentChars ++ rest)) n rest := by
  obtain ⟨whole, fraction, e⟩ := num
  have he : ∀ x ∈ e, x.WellFormed := wellFormed.exponent
  simp only [Numeral.value?] at h
  cases fraction with
  | cons d ds =>
    have hf : IsDigits (d :: ds) := ⟨by simp, wellFormed.fraction⟩
    rw [if_neg (by simp)] at h
    exact (reads_peek _).bind (reads_fractionPart hf he ends h)
  | nil =>
    have chars : Numeral.fractionChars ⟨whole, [], e⟩ ++ (Numeral.exponentChars ⟨whole, [], e⟩ ++ rest) =
        e.elim [] Exponent.chars ++ rest := rfl
    -- without digits behind the point the significand is that of the digits in front of it
    have start (s : Nat) (k : Nat) : (k : Int) - ((takeDigits s []).2.1 : Nat) = k := by
      simp [takeDigits]
    rw [start] at h
    rw [chars]
    refine (reads_peek _).bind ?_
    cases e with
    | some e =>
      have stop : ∀ c ∈ rest.head?, c.isDigit = false := fun c first => (ends c first).1
      rw [if_neg (by simp)] at h
      have part := reads_exponentPart (he e rfl) stop h
      have first : ((some e).elim [] Exponent.chars ++ rest).head? = some e.letter := rfl
      rcases (he e rfl).letter with letter | letter
      · rw [first, letter]
        exact part
      · rw [first, letter]
        exact part
    | none =>
      rw [Option.elim_none, List.nil_append]
      split
      · next point => exact absurd rfl (ends '.' point).2.1
      · next letter => exact absurd rfl (ends 'e' letter).2.2.1
      · next letter => exact absurd rfl (ends 'E' letter).2.2.2
      · split
        · next held =>
          rw [if_pos ⟨rfl, rfl, List.isEmpty_iff.mp held⟩] at h
          cases h
          exact Reads.pure _ rest
        · next dropped =>
          rw [if_neg fun all => dropped (List.isEmpty_iff.mpr all.2.2)] at h
          exact reads_parts h rest

/-- **A numeral is read as what it counts as**, if nothing behind it goes on with it. -/
theorem reads_number {num : Numeral} (wellFormed : num.WellFormed) (ends : EndsNumber rest)
    (h : num.value? positive = some n) : Reads (number positive) (num.chars ++ rest) n rest := by
  have behind := reads_numberFrom wellFormed ends h
  have stop : ∀ c ∈ (num.fractionChars ++ (num.exponentChars ++ rest)).head?, c.isDigit = false := by
    intro c first
    unfold Numeral.fractionChars at first
    split at first
    · exact (not_isDigit_head?_elim wellFormed.exponent ends c first).1
    · cases first
      decide
  unfold number
  rw [Numeral.chars, List.append_assoc, List.append_assoc]
  generalize num.fractionChars ++ (num.exponentChars ++ rest) = tail at behind stop
  -- a zero is not followed by a digit; any other number is a run of digits
  rcases wellFormed.whole with zero | ⟨hds, nonzero⟩
  · rw [zero] at behind ⊢
    rw [List.singleton_append]
    have taken : Reads (do skip; Pure.pure ['0']) ('0' :: tail) ['0'] tail :=
      (reads_skip '0' tail).bind (Reads.pure _ tail)
    refine (reads_peek _).bind (taken.bind ((reads_peek tail).bind ?_))
    split
    · next c first =>
      rw [stop c first, if_neg (by simp)]
      exact behind
    · exact behind
  · have all := reads_digits hds.digits stop
    obtain ⟨d, more, whole, digit⟩ := exists_cons_of_isDigits hds
    rw [whole] at all behind nonzero ⊢
    have first : d ≠ '0' := by simpa using nonzero
    rw [List.cons_append] at all ⊢
    refine (reads_peek _).bind ?_
    simp only [List.head?_cons, digit, first, Bool.not_true, Bool.false_eq_true, ↓reduceIte]
    exact all.bind behind

/-! ## What has been read -/

variable {c c' : Cursor}

theorem digits_eq_ok {ds : List Char} (h : digits c = .ok (ds, c')) :
    (∀ d ∈ ds, d.isDigit = true) ∧ c.rest = ds ++ c'.rest := by
  unfold digits at h
  cases h
  refine ⟨fun d within => List.mem_takeWhile_imp within, ?_⟩
  rw [rest_dropWhile]
  exact List.takeWhile_append_dropWhile.symm

theorem parts_eq_ok (h : parts positive s start c = .ok (n, c')) :
    real? positive s start = some n ∧ c' = c := by
  unfold parts at h
  cases inRange : ofParts positive s start with
  | none =>
    rw [inRange] at h
    cases h
  | some x =>
    rw [inRange] at h
    cases h
    exact ⟨by rw [real?, inRange]; rfl, rfl⟩

theorem exponentDigits_eq_ok {v fuel : Nat} {result : Option Nat} (below : v < exponentLimit)
    (h : exponentDigits v fuel c = .ok (result, c')) :
    ∃ ds, (∀ d ∈ ds, d.isDigit = true) ∧ c.rest = ds ++ c'.rest ∧
      (result = some (Nat.ofDigitChars 10 ds v) ∧ Nat.ofDigitChars 10 ds v < exponentLimit ∨
        result = none ∧ exponentLimit ≤ Nat.ofDigitChars 10 ds v) := by
  -- induction on the turns of the reader, each of which takes a digit or is the last
  induction fuel generalizing v c with
  | zero =>
    cases h
    exact ⟨[], nofun, rfl, .inl ⟨rfl, below⟩⟩
  | succ fuel ih =>
    obtain ⟨token, c₁, looked, h⟩ := bind_eq_ok h
    split at h
    · next d =>
      split at h
      · next digit =>
        obtain ⟨⟨⟩, c₂, skipped, h⟩ := bind_eq_ok h
        have rest := skip_of_peek looked skipped
        have next : v * 10 + digitValue d = 10 * v + (d.toNat - '0'.toNat) := by
          rw [Nat.mul_comm, digitValue]
        simp only at h
        split at h
        · next beyond =>
          cases h
          refine ⟨[d], by simpa using digit, rest, .inr ⟨rfl, ?_⟩⟩
          rw [Nat.ofDigitChars_cons, ← next]
          exact beyond
        · next inside =>
          obtain ⟨ds, all, rest', value⟩ := ih (Nat.lt_of_not_le inside) h
          refine ⟨d :: ds, ?_, by rw [rest, rest', List.cons_append], ?_⟩
          · intro e within
            rcases List.mem_cons.mp within with rfl | within
            · exact digit
            · exact all e within
          · rw [Nat.ofDigitChars_cons, ← next]
            exact value
      · cases h
        exact ⟨[], nofun, by rw [(peek_eq_ok looked).2]; rfl, .inl ⟨rfl, below⟩⟩
    · cases h
      exact ⟨[], nofun, by rw [(peek_eq_ok looked).2]; rfl, .inl ⟨rfl, below⟩⟩

/-- The digits of an exponent behind its sign. -/
theorem exponentValue_eq_ok {letter : Char} {sign : List Char} {positiveExponent : Bool}
    (isLetter : letter = 'e' ∨ letter = 'E') (isSign : sign = [] ∨ sign = ['+'] ∨ sign = ['-'])
    (agrees : positiveExponent = true ↔ sign ≠ ['-'])
    (h : exponentValue positive positiveExponent s start c = .ok (n, c')) :
    ∃ ds, Exponent.WellFormed ⟨letter, sign, ds⟩ ∧ c.rest = ds ++ c'.rest ∧
      scaled? positive s start (some ⟨letter, sign, ds⟩) = some n := by
  obtain ⟨token, c₁, looked, h⟩ := bind_eq_ok h
  split at h
  · cases h
  · next d =>
    split at h
    · cases h
    · next digit =>
      have digit : d.isDigit = true := by simpa using digit
      obtain ⟨⟨⟩, c₂, skipped, h⟩ := bind_eq_ok h
      obtain ⟨left, c₃, counted, h⟩ := bind_eq_ok h
      cases counted
      obtain ⟨result, c₄, read, h⟩ := bind_eq_ok h
      have rest := skip_of_peek looked skipped
      have below : digitValue d < exponentLimit := Nat.lt_trans (digitValue_lt digit) (by decide)
      obtain ⟨ds, all, rest', value⟩ := exponentDigits_eq_ok below read
      have wellFormed {more : List Char} (digits : ∀ e ∈ more, e.isDigit = true) :
          Exponent.WellFormed ⟨letter, sign, d :: more⟩ := by
        refine ⟨isLetter, isSign, by simp, fun e within => ?_⟩
        rcases List.mem_cons.mp within with rfl | within
        · exact digit
        · exact digits e within
      rcases value with ⟨rfl, inside⟩ | ⟨rfl, beyond⟩
      · obtain ⟨inRange, rfl⟩ := parts_eq_ok h
        refine ⟨d :: ds, wellFormed all, by rw [rest, rest', List.cons_append], ?_⟩
        rw [scaled?, size_cons, if_pos inside, ← inRange]
        by_cases minus : sign = ['-']
        · rw [if_pos minus, if_neg (by rw [agrees]; exact fun plus => plus minus)]
        · rw [if_neg minus, if_pos (agrees.mpr minus)]
      · rw [exponentEnd] at h
        split at h
        · cases h
        · next inRange =>
          obtain ⟨more, c₅, taken, h⟩ := bind_eq_ok h
          cases h
          obtain ⟨all', rest''⟩ := digits_eq_ok taken
          refine ⟨d :: (ds ++ more), wellFormed ?_, ?_, ?_⟩
          · intro e within
            rcases List.mem_append.mp within with within | within
            · exact all e within
            · exact all' e within
          · rw [rest, rest', rest'', List.cons_append, List.append_assoc]
          · -- the digits that are left make the exponent no smaller
            have large : exponentLimit ≤ Nat.ofDigitChars 10 (ds ++ more) (digitValue d) := by
              rw [Nat.ofDigitChars_append]
              exact Nat.le_trans beyond (le_ofDigitChars more _)
            rw [scaled?, size_cons, if_neg (Nat.not_lt.mpr large), if_neg]
            exact fun all => inRange ⟨all.1, agrees.mpr all.2⟩

theorem exponentPart_eq_ok {letter : Char} (isLetter : letter = 'e' ∨ letter = 'E')
    (first : c.rest.head? = some letter) (h : exponentPart positive s start c = .ok (n, c')) :
    ∃ e : Exponent, e.WellFormed ∧ c.rest = e.chars ++ c'.rest ∧
      scaled? positive s start (some e) = some n := by
  rw [exponentPart_eq] at h
  obtain ⟨⟨⟩, c₁, skipped, h⟩ := bind_eq_ok h
  obtain ⟨sign, c₂, looked, h⟩ := bind_eq_ok h
  have rest := skip_eq_ok skipped first
  split at h
  · next signed =>
    obtain ⟨⟨⟩, c₃, skipped', h⟩ := bind_eq_ok h
    simp only [Bool.or_eq_true, beq_iff_eq] at signed
    rcases signed with plus | minus
    · rw [plus] at h looked
      obtain ⟨ds, wellFormed, rest', value⟩ :=
        exponentValue_eq_ok isLetter (.inr (.inl rfl)) (by decide) h
      exact ⟨_, wellFormed, by rw [rest, skip_of_peek looked skipped', rest']; rfl, value⟩
    · rw [minus] at h looked
      obtain ⟨ds, wellFormed, rest', value⟩ :=
        exponentValue_eq_ok isLetter (.inr (.inr rfl)) (by decide) h
      exact ⟨_, wellFormed, by rw [rest, skip_of_peek looked skipped', rest']; rfl, value⟩
  · next unsigned =>
    have notMinus : sign ≠ some '-' := by
      rintro rfl
      exact unsigned rfl
    obtain ⟨ds, wellFormed, rest', value⟩ :=
      exponentValue_eq_ok isLetter (.inl rfl) (by simp [notMinus]) h
    exact ⟨_, wellFormed, by rw [rest, ← (peek_eq_ok looked).2, rest']; rfl, value⟩

theorem exponentOrEnd_eq_ok (h : exponentOrEnd positive s start c = .ok (n, c')) :
    ∃ e : Option Exponent, (∀ x ∈ e, x.WellFormed) ∧ c.rest = e.elim [] Exponent.chars ++ c'.rest ∧
      scaled? positive s start e = some n := by
  obtain ⟨token, c₁, looked, h⟩ := bind_eq_ok h
  obtain ⟨first, same⟩ := peek_eq_ok looked
  rw [same] at h
  have part {letter : Char} (isLetter : letter = 'e' ∨ letter = 'E') (first : c.rest.head? = some letter)
      (h : exponentPart positive s start c = .ok (n, c')) : ∃ e : Option Exponent,
      (∀ x ∈ e, x.WellFormed) ∧ c.rest = e.elim [] Exponent.chars ++ c'.rest ∧
        scaled? positive s start e = some n := by
    obtain ⟨e, wellFormed, rest, value⟩ := exponentPart_eq_ok isLetter first h
    exact ⟨some e, fun x same => Option.some.inj same ▸ wellFormed, rest, value⟩
  split at h
  · exact part (.inl rfl) first.symm h
  · exact part (.inr rfl) first.symm h
  · obtain ⟨value, rfl⟩ := parts_eq_ok h
    exact ⟨none, nofun, rfl, value⟩

theorem fractionPart_eq_ok (point : c.rest.head? = some '.')
    (h : fractionPart positive s start c = .ok (n, c')) :
    ∃ fraction, ∃ e : Option Exponent, IsDigits fraction ∧ (∀ x ∈ e, x.WellFormed) ∧
      c.rest = '.' :: fraction ++ (e.elim [] Exponent.chars ++ c'.rest) ∧
      scaled? positive (takeDigits s fraction).1 (start - (takeDigits s fraction).2.1) e = some n := by
  obtain ⟨⟨⟩, c₁, skipped, h⟩ := bind_eq_ok h
  obtain ⟨ds, c₂, taken, h⟩ := bind_eq_ok h
  obtain ⟨all, rest⟩ := digits_eq_ok taken
  split at h
  · obtain ⟨token, c₃, -, h⟩ := bind_eq_ok h
    split at h <;> cases h
  · next some' =>
    obtain ⟨e, wellFormed, rest', value⟩ := exponentOrEnd_eq_ok h
    refine ⟨ds, e, ⟨some', all⟩, wellFormed, ?_, value⟩
    rw [skip_eq_ok skipped point, rest, rest', List.cons_append]

theorem numeral_of_numberFrom {whole : List Char} (hw : IsWhole whole)
    (h : numberFrom positive whole c = .ok (n, c')) :
    ∃ num : Numeral, num.WellFormed ∧ num.whole = whole ∧
      c.rest = num.fractionChars ++ (num.exponentChars ++ c'.rest) ∧ num.value? positive = some n := by
  obtain ⟨token, c₁, looked, h⟩ := bind_eq_ok h
  obtain ⟨first, same⟩ := peek_eq_ok looked
  rw [same] at h
  have start' (s : Nat) (k : Nat) : (k : Int) - ((takeDigits s []).2.1 : Nat) = k := by
    simp [takeDigits]
  have part {letter : Char} (isLetter : letter = 'e' ∨ letter = 'E') (first : c.rest.head? = some letter)
      (h : exponentPart positive (takeDigits 0 whole).1 (takeDigits 0 whole).2.2.length c =
        .ok (n, c')) : ∃ num : Numeral, num.WellFormed ∧ num.whole = whole ∧
      c.rest = num.fractionChars ++ (num.exponentChars ++ c'.rest) ∧
        num.value? positive = some n := by
    obtain ⟨e, wellFormed, rest, value⟩ := exponentPart_eq_ok isLetter first h
    refine ⟨⟨whole, [], some e⟩, ⟨hw, nofun, fun x same => Option.some.inj same ▸ wellFormed⟩, rfl,
      rest, ?_⟩
    simp only [Numeral.value?]
    rw [if_neg (by simp), start']
    exact value
  split at h
  · obtain ⟨fraction, e, hf, wellFormed, rest, value⟩ := fractionPart_eq_ok first.symm h
    refine ⟨⟨whole, fraction, e⟩, ⟨hw, hf.digits, wellFormed⟩, rfl, ?_, ?_⟩
    · rw [rest, Numeral.fractionChars, if_neg hf.some']
      rfl
    · simp only [Numeral.value?]
      rw [if_neg fun all => hf.some' all.1]
      exact value
  · exact part (.inl rfl) first.symm h
  · exact part (.inr rfl) first.symm h
  · refine ⟨⟨whole, [], none⟩, ⟨hw, nofun, nofun⟩, rfl, ?_⟩
    simp only [Numeral.value?]
    split at h
    · next held =>
      cases h
      exact ⟨rfl, if_pos ⟨trivial, trivial, List.isEmpty_iff.mp held⟩⟩
    · next dropped =>
      obtain ⟨value, rfl⟩ := parts_eq_ok h
      rw [if_neg fun all => dropped (List.isEmpty_iff.mpr all.2.2), start']
      exact ⟨rfl, value⟩

/-- **What has been read as a number is a numeral that counts as it.** -/
theorem numeral_of_number (h : number positive c = .ok (n, c')) :
    ∃ num : Numeral, num.WellFormed ∧ c.rest = num.chars ++ c'.rest ∧ num.value? positive = some n := by
  obtain ⟨token, c₁, looked, h⟩ := bind_eq_ok h
  split at h
  · cases h
  · next d =>
    split at h
    · cases h
    · next digit =>
      have digit : d.isDigit = true := by simpa using digit
      obtain ⟨ds, c₂, taken, h⟩ := bind_eq_ok h
      obtain ⟨hw, rest, behind⟩ : IsWhole ds ∧ c.rest = ds ++ c₂.rest ∧
          numberFrom positive ds c₂ = .ok (n, c') := by
        split at taken
        · next zero =>
          obtain ⟨⟨⟩, c₃, skipped, taken⟩ := bind_eq_ok taken
          cases taken
          refine ⟨.inl rfl, ?_, ?_⟩
          · rw [skip_of_peek looked skipped, zero]
            rfl
          · simp only [zero, ↓reduceIte] at h
            obtain ⟨next', c₄, looked', h⟩ := bind_eq_ok h
            split at h
            · next e =>
              split at h
              · cases h
              · rw [(peek_eq_ok looked').2] at h
                exact h
            · rw [(peek_eq_ok looked').2] at h
              exact h
        · next nonzero =>
          obtain ⟨all, rest⟩ := digits_eq_ok taken
          obtain ⟨first, same⟩ := peek_eq_ok looked
          simp only [nonzero, ↓reduceIte] at h
          have head : ds.head? = some d := by
            obtain ⟨more, text⟩ := List.head?_eq_some_iff.mp first.symm
            unfold digits at taken
            cases taken
            rw [same, text, List.takeWhile_cons_of_pos digit]
            rfl
          refine ⟨.inr ⟨⟨?_, all⟩, ?_⟩, by rw [← same, rest], h⟩
          · rintro rfl
            cases head
          · rw [head]
            simpa using nonzero
      obtain ⟨num, wellFormed, rfl, rest', value⟩ := numeral_of_numberFrom hw behind
      refine ⟨num, wellFormed, ?_, value⟩
      rw [rest, rest', Numeral.chars, List.append_assoc, List.append_assoc]

end Reader

end AdminPanel.Json
