import AdminPanel.Proofs.Time.Civil
import AdminPanel.Time.Reading
import AdminPanel.Time.Written
import Mathlib.Algebra.Group.Nat.Defs

/-!
# Reading back written instants

The interchange form of an instant is read back as the instant, for every instant of the calendar:
with a fraction of any length, in a leap second, and in years that need a sign.

* **`Takes`** — a reader takes its value from the front of a text and leaves the rest. Readers that are
  bound take one stretch after the other (`Takes.bind`).
* **`takes_number`** — digits written with leading zeros are the number they write.
* **`read_rfc3339`** — the parts put together; the date comes back because the calendar has it.
-/

namespace AdminPanel.Time

open Text (isBlank)

/-! ## Digits -/

theorem not_isBlank_of_isDigit {c : Char} (h : c.isDigit = true) : isBlank c = false := by
  have bounds : 48 ≤ c.toNat ∧ c.toNat ≤ 57 := by
    simpa [Char.isDigit, UInt32.le_iff_toNat_le] using h
  simp only [isBlank, Bool.or_eq_false_iff, Bool.and_eq_false_iff, decide_eq_false_iff_not, beq_eq_false_iff_ne]
  omega

theorem isDigit_of_mem_zeroPadded (width n : Nat) : ∀ c ∈ zeroPadded width n, c.isDigit = true := by
  intro c h
  rcases List.mem_append.mp h with zero | digit
  · rw [(List.mem_replicate.mp zero).2]
    rfl
  · exact Nat.isDigit_of_mem_toDigits (by omega) (by omega) digit

theorem zeroPadded_ne_nil (width n : Nat) : zeroPadded width n ≠ [] :=
  List.append_ne_nil_of_right_ne_nil _ Nat.toDigits_ne_nil

theorem length_zeroPadded {width n : Nat} (fits : n < 10 ^ width) (pos : 0 < width) :
    (zeroPadded width n).length = width := by
  have digits := (Nat.length_toDigits_le_iff (by omega : 1 < 10) pos).mpr fits
  simp only [zeroPadded, List.length_append, List.length_replicate]
  omega

namespace DateReader

theorem decimal_eq (ds : List Char) : decimal ds = Nat.ofDigitChars 10 ds 0 := by
  simp only [decimal, Nat.ofDigitChars_eq_foldl, Nat.mul_comm]

@[simp] theorem decimal_zeroPadded (width n : Nat) : decimal (zeroPadded width n) = n := by
  rw [decimal_eq, zeroPadded, Nat.ofDigitChars_append, Nat.ofDigitChars_replicate_zero, Nat.mul_zero,
    Nat.ofDigitChars_ten_toDigits]

/-! ## Taking from the front -/

variable {α β : Type}

/-- A reader takes the characters up to `rest` and gives a value. -/
def Takes (r : DateReader α) (cs : List Char) (a : α) (rest : List Char) : Prop :=
  r cs = .ok (a, rest)

theorem Takes.bind {r : DateReader α} {f : α → DateReader β} {cs mid rest : List Char} {a : α} {b : β}
    (h : Takes r cs a mid) (hf : Takes (f a) mid b rest) : Takes (r >>= f) cs b rest := by
  show (r cs >>= fun x => f x.1 x.2) = _
  rw [h]
  exact hf

theorem takes_pure (a : α) (cs : List Char) : Takes (pure a) cs a cs := rfl

theorem takes_peek (cs : List Char) : Takes peek cs cs.head? cs := rfl

theorem takes_skip (c : Char) (cs : List Char) : Takes skip (c :: cs) () cs := rfl

theorem takes_literal (c : Char) (cs : List Char) : Takes (literal c) (c :: cs) () cs := by
  refine (takes_peek _).bind ?_
  simp only [List.head?_cons, ↓reduceIte]
  exact takes_skip c cs

/-- Where nothing can be dropped, nothing is. -/
theorem takes_dropWhile_none {p : Char → Bool} {cs : List Char} (h : ∀ c ∈ cs.head?, p c = false) :
    Takes (dropWhile p) cs () cs := by
  cases cs with
  | nil => rfl
  | cons c cs =>
    have stays : p c = false := h c (by simp)
    simp [Takes, dropWhile, stays]

theorem takes_separator {c : Char} (h : isBlank c = false) (cs : List Char) :
    Takes (separator c) (c :: cs) () cs :=
  (takes_dropWhile_none (by simpa using h)).bind (takes_literal c cs)

/-! ## Numbers -/

/-- Digits are taken up to what is no digit, or up to as many as are wanted. -/
theorem takes_number (most : Option Nat) {ds : List Char} (rest : List Char)
    (digits : ∀ c ∈ ds, c.isDigit = true)
    (some' : ds ≠ []) (room : ∀ n ∈ most, ds.length ≤ n)
    (stop : most = some ds.length ∨ ∀ c ∈ rest.head?, c.isDigit = false)
    (small : decimal ds < numberLimit) :
    Takes (number most) (ds ++ rest) (decimal ds, ds.length) rest := by
  have run : (ds ++ rest).takeWhile Char.isDigit = ds ++ rest.takeWhile Char.isDigit :=
    List.takeWhile_append_of_pos digits
  have open' (h : ∀ c ∈ rest.head?, c.isDigit = false) : rest.takeWhile Char.isDigit = [] := by
    cases rest with
    | nil => rfl
    | cons c cs => simp [h c (by simp)]
  have full : ds.isEmpty = false := by simp [some']
  have full' : (ds ++ rest).isEmpty = false := by simp [some']
  unfold Takes number
  -- with no bound the run of digits ends by itself, with a bound it may be cut at it
  cases most with
  | none =>
    have stop := stop.resolve_left (by simp)
    simp only [run, open' stop, List.append_nil, full, full', Bool.false_eq_true, ↓reduceIte,
      Nat.not_le.mpr small, List.drop_left]
  | some n =>
    have taken : (ds ++ rest.takeWhile Char.isDigit).take n = ds := by
      rcases stop with exact' | stop
      · cases exact'
        exact List.take_left
      · rw [open' stop, List.append_nil]
        exact List.take_of_length_le (room n rfl)
    simp only [run, taken, full, full', Bool.false_eq_true, ↓reduceIte, Nat.not_le.mpr small,
      List.drop_left]

/-- A number in as many digits as are wanted. -/
theorem takes_zeroPadded (width n : Nat) (fits : n < 10 ^ width) (pos : 0 < width)
    (small : n < numberLimit) (rest : List Char) :
    Takes (number (some width)) (zeroPadded width n ++ rest) (n, width) rest := by
  have length := length_zeroPadded fits pos
  have taken := takes_number (some width) rest
    (isDigit_of_mem_zeroPadded width n)
    (zeroPadded_ne_nil width n) (by simp [length]) (.inl (by rw [length])) (by simpa using small)
  rwa [length, decimal_zeroPadded] at taken

/-- A number in any number of digits, up to what is no digit. -/
theorem takes_zeroPadded_of_stop (width n : Nat) (small : n < numberLimit) {rest : List Char}
    (stop : ∀ c ∈ rest.head?, c.isDigit = false) :
    Takes (number none) (zeroPadded width n ++ rest) (n, (zeroPadded width n).length) rest := by
  have taken := takes_number none rest (isDigit_of_mem_zeroPadded width n) (zeroPadded_ne_nil width n)
    (by simp) (.inr stop) (by rwa [decimal_zeroPadded])
  rwa [decimal_zeroPadded] at taken

theorem head?_zeroPadded_append (width n : Nat) (rest : List Char) :
    ∃ c, (zeroPadded width n ++ rest).head? = some c ∧ c.isDigit = true := by
  obtain ⟨c, cs, h⟩ := List.exists_cons_of_ne_nil (zeroPadded_ne_nil width n)
  refine ⟨c, by simp [h], isDigit_of_mem_zeroPadded width n c (by simp [h])⟩

theorem takes_bounded {low high n : Nat} (h : low ≤ n ∧ n ≤ high) (two : n < 100) (rest : List Char) :
    Takes (bounded low high) (zeroPadded 2 n ++ rest) n rest := by
  obtain ⟨c, head, digit⟩ := head?_zeroPadded_append 2 n rest
  refine (takes_dropWhile_none ?_).bind ?_
  · rw [head]
    simpa using not_isBlank_of_isDigit digit
  · refine (takes_zeroPadded 2 n (by omega) (by omega) (by unfold numberLimit; omega) rest).bind ?_
    simp only [h, and_self, ↓reduceIte]
    exact takes_pure n rest

/-! ## The parts of the interchange form -/

theorem takes_year {y : Int} (small : -262143 ≤ y ∧ y ≤ 262142) {rest : List Char}
    (stop : ∀ c ∈ rest.head?, c.isDigit = false) :
    Takes year (yearText y ++ rest) y rest := by
  have inside : -0x80000000 ≤ y ∧ y < 0x80000000 := by omega
  have ends : Takes (if -0x80000000 ≤ y ∧ y < 0x80000000 then pure y else fail .outOfRange) rest y
      rest := by
    rw [if_pos inside]
    exact takes_pure y rest
  unfold yearText
  split
  · -- four digits and no sign: the reader meets a digit, which is neither sign
    next plain =>
    obtain ⟨c, head, digit⟩ := head?_zeroPadded_append 4 y.toNat rest
    refine (takes_dropWhile_none ?_).bind ?_
    · rw [head]
      simpa using not_isBlank_of_isDigit digit
    · refine Takes.bind (?_ : Takes _ _ y rest) ends
      refine (takes_peek _).bind ?_
      have number := takes_zeroPadded 4 y.toNat (by omega) (by omega)
        (by unfold numberLimit; omega) rest
      have value : (y.toNat : Int) = y := by omega
      rw [head]
      split
      · next minus => cases Option.some.inj minus; cases digit
      · next plus => cases Option.some.inj plus; cases digit
      · refine number.bind ?_
        show Takes (pure (y.toNat : Int)) rest y rest
        rw [value]
        exact takes_pure y rest
  · next sign =>
    -- with a sign any number of digits is read, so that what follows must not be one
    have number := takes_zeroPadded_of_stop 4 y.natAbs (by unfold numberLimit; omega) stop
    by_cases negative : y < 0
    · rw [if_pos negative]
      refine (takes_dropWhile_none (by simp [isBlank])).bind ?_
      refine Takes.bind (?_ : Takes _ _ y rest) ends
      refine (takes_peek _).bind ((takes_skip '-' _).bind (number.bind ?_))
      have value : -(y.natAbs : Int) = y := by omega
      show Takes (pure (-(y.natAbs : Int))) rest y rest
      rw [value]
      exact takes_pure y rest
    · rw [if_neg negative]
      refine (takes_dropWhile_none (by simp [isBlank])).bind ?_
      refine Takes.bind (?_ : Takes _ _ y rest) ends
      refine (takes_peek _).bind ((takes_skip '+' _).bind (number.bind ?_))
      have value : (y.natAbs : Int) = y := by omega
      show Takes (pure (y.natAbs : Int)) rest y rest
      rw [value]
      exact takes_pure y rest

theorem takes_date {d : Date} (valid : d.IsValid) (small : -262143 ≤ d.year ∧ d.year ≤ 262142)
    (rest : List Char) : Takes date (d.text ++ rest) d rest := by
  obtain ⟨y, m, n⟩ := d
  obtain ⟨m₁, m₂, n₁, n₂⟩ := valid
  have long : daysInMonth y m ≤ 31 := by
    unfold daysInMonth
    split
    · split <;> omega
    · split <;> omega
  simp only at m₁ m₂ n₁ n₂ small
  have layout : Date.text ⟨y, m, n⟩ ++ rest =
      yearText y ++ '-' :: (zeroPadded 2 m ++ '-' :: (zeroPadded 2 n ++ rest)) := by
    simp [Date.text]
  rw [layout]
  refine (takes_year small (by simp)).bind ?_
  refine (takes_separator (by decide) _).bind ?_
  refine (takes_bounded ⟨m₁, m₂⟩ (by omega) _).bind ?_
  refine (takes_separator (by decide) _).bind ?_
  exact (takes_bounded ⟨n₁, by omega⟩ (by omega) rest).bind (takes_pure _ rest)

/-- The fraction is read back from as many groups of three digits as it is written in. -/
theorem takes_fraction {nanos : Nat} (small : nanos < nanosPerSecond) (rest : List Char)
    (stop : ∀ c ∈ rest.head?, c.isDigit = false ∧ c ≠ '.') :
    Takes fraction (fractionText nanos ++ rest) nanos rest := by
  have limit : nanosPerSecond = 1000000000 := rfl
  -- one group of digits behind the point, scaled up to nanoseconds
  have group (width n : Nat) (pos : 0 < width) (most : width ≤ 9) (fits : n < 10 ^ width)
      (exact' : n * 10 ^ (9 - width) = nanos) :
      Takes fraction ('.' :: zeroPadded width n ++ rest) nanos rest := by
    have length := length_zeroPadded fits pos
    have below : n < numberLimit := by
      have : 10 ^ width ≤ 10 ^ 9 := Nat.pow_le_pow_right (by omega) most
      unfold numberLimit
      omega
    have number := takes_number (some 9) rest
      (isDigit_of_mem_zeroPadded width n) (zeroPadded_ne_nil width n)
      (by simp [length, most]) (.inr fun c hc => (stop c hc).1) (by simpa using below)
    rw [decimal_zeroPadded, length] at number
    refine (takes_peek _).bind ((takes_skip '.' _).bind (number.bind ?_))
    refine (takes_dropWhile_none fun c hc => (stop c hc).1).bind ?_
    have value : n * Nat.pow 10 (9 - width) = nanos := exact'
    rw [value]
    exact takes_pure nanos rest
  unfold fractionText
  split
  · next none' =>
    refine (takes_peek _).bind ?_
    simp only [List.nil_append, none']
    split
    · next point => exact absurd rfl (stop '.' (by simp [point])).2
    · exact takes_pure 0 rest
  · split
    · exact group 3 _ (by omega) (by omega) (by omega) (by omega)
    · split
      · exact group 6 _ (by omega) (by omega) (by omega) (by omega)
      · exact group 9 _ (by omega) (by omega) (by omega) (by omega)

end DateReader

/-! ## Instants -/

open DateReader

namespace Instant

variable {t : Instant}

theorem clockNanos_lt (t : Instant) : t.clockNanos < nanosPerSecond := by
  obtain ⟨-, short | ⟨short, -⟩⟩ := t.valid
  · have notLeap : t.isLeap = false := by simpa [isLeap] using short
    simpa [clockNanos, notLeap] using short
  · unfold clockNanos isLeap
    split
    · omega
    · next notLeap => simpa using notLeap

/-- A leap second is the sixtieth of its minute. -/
theorem clockSecond_le (t : Instant) : t.clockSecond ≤ 60 := by
  unfold clockSecond
  split <;> omega

theorem secondOfDay_lt (t : Instant) : t.secondOfDay < 86400 := by
  unfold secondOfDay
  omega

/-- The time of day is read back, a sixtieth second as the one before with another second of
nanoseconds. -/
theorem takes_clock (t : Instant) (rest : List Char)
    (stop : ∀ c ∈ rest.head?, c.isDigit = false ∧ c ≠ '.' ∧ isBlank c = false) :
    Takes clock (t.clockText ++ (fractionText t.clockNanos ++ rest)) (t.secondOfDay, t.nanos) rest := by
  have day := secondOfDay_lt t
  have second := clockSecond_le t
  have layout : t.clockText ++ (fractionText t.clockNanos ++ rest) =
      zeroPadded 2 (t.secondOfDay / 3600) ++ ':' :: (zeroPadded 2 (t.secondOfDay / 60 % 60) ++ ':' ::
        (zeroPadded 2 t.clockSecond ++ (fractionText t.clockNanos ++ rest))) := by
    simp [clockText]
  rw [layout]
  refine (takes_bounded (by omega) (by omega) _).bind ?_
  refine (takes_separator (by decide) _).bind ?_
  refine (takes_bounded (by omega) (by omega) _).bind ?_
  refine (takes_separator (by decide) _).bind ?_
  refine (takes_bounded (by omega) (by omega) _).bind ?_
  refine (takes_fraction (clockNanos_lt t) rest fun c hc => ⟨(stop c hc).1, (stop c hc).2.1⟩).bind ?_
  refine (takes_dropWhile_none fun c hc => (stop c hc).2.2).bind ?_
  cases leap : t.isLeap with
  | false =>
    have below : t.clockSecond ≠ 60 := by
      simp only [clockSecond, leap, Bool.false_eq_true, ↓reduceIte]
      omega
    have whole : t.secondOfDay / 3600 * 3600 + t.secondOfDay / 60 % 60 * 60 + t.clockSecond
        = t.secondOfDay := by
      simp only [clockSecond, leap, Bool.false_eq_true, ↓reduceIte]
      omega
    have nanos : t.clockNanos = t.nanos := by simp [clockNanos, leap]
    rw [if_neg below, whole, nanos]
    exact takes_pure _ rest
  | true =>
    -- only the last second of a minute has room for a leap second
    have past : nanosPerSecond ≤ t.nanos := by simpa [isLeap] using leap
    have minute : t.secondOfDay % 60 = 59 := by
      obtain ⟨-, short | ⟨-, last⟩⟩ := t.valid
      · omega
      · unfold secondOfDay
        omega
    have sixty : t.clockSecond = 60 := by simp [clockSecond, leap, minute]
    have whole : t.secondOfDay / 3600 * 3600 + t.secondOfDay / 60 % 60 * 60 + 59
        = t.secondOfDay := by omega
    have nanos : nanosPerSecond + t.clockNanos = t.nanos := by
      simp only [clockNanos, leap, ↓reduceIte]
      omega
    rw [if_pos sixty, whole, nanos]
    exact takes_pure _ rest

theorem takes_zone : Takes zone ['Z'] 0 [] := rfl

/-- The parts of an instant are those of the instant. -/
theorem ofParts?_date (t : Instant) :
    ofParts? (t.date.dayNumber * 86400 + t.secondOfDay - 0) t.nanos = some t := by
  have seconds : t.date.dayNumber * 86400 + t.secondOfDay - 0 = t.seconds := by
    rw [date, Date.dayNumber_ofDayNumber]
    unfold secondOfDay
    omega
  rw [seconds, ofParts?, if_pos (by omega)]
  simp only [Int.toNat_natCast]
  rw [dif_pos t.valid]

theorem takes_instant (t : Instant) :
    Takes instant (t.date.text ++ 'T' :: t.clockText ++ fractionText t.clockNanos ++ ['Z']) t [] := by
  obtain ⟨first, last⟩ := t.valid.1
  have valid : t.date.IsValid := Date.isValid_ofDayNumber (t.seconds / 86400)
  have years : -262143 ≤ t.date.year ∧ t.date.year ≤ 262142 := by
    refine Date.year_ofDayNumber ?_ ?_
    · have whole : firstSecond % 86400 = 0 := by decide
      omega
    · omega
  have layout : t.date.text ++ 'T' :: t.clockText ++ fractionText t.clockNanos ++ ['Z'] =
      t.date.text ++ 'T' :: (t.clockText ++ (fractionText t.clockNanos ++ ['Z'])) := by simp
  rw [layout]
  refine (takes_date valid years _).bind ?_
  refine (takes_peek _).bind ?_
  refine (takes_skip 'T' _).bind ?_
  refine (takes_clock t ['Z'] (by simp [isBlank])).bind ?_
  refine takes_zone.bind ?_
  refine (takes_dropWhile_none (by simp)).bind ?_
  refine (takes_peek []).bind ?_
  -- nothing is left, and the calendar has the date
  have checks : ¬ ¬ (t.date.IsValid ∧ -262143 ≤ t.date.year ∧ t.date.year ≤ 262142) :=
    fun h => h ⟨valid, years⟩
  have offset : ¬ 86400 ≤ Int.natAbs 0 := by decide
  simp only [List.head?_nil, Option.isSome_none, Bool.false_eq_true, ↓reduceIte, if_neg checks,
    if_neg offset, ofParts?_date]
  exact takes_pure t []

/-- **A written instant is read back.** -/
theorem read_rfc3339 (t : Instant) : Instant.read t.rfc3339 = .ok t := by
  have taken := takes_instant t
  unfold Takes at taken
  rw [Instant.read, rfc3339, String.toList_ofList, taken]

end Instant

end AdminPanel.Time
