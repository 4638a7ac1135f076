import AdminPanel.Proofs.Time.Calendar
import AdminPanel.Proofs.Time.ReadingBack

/-!
# What a written instant shows

Both written forms show a date and a time of day, digit by digit; the interchange form also shows the
fraction of the second. What a text shows is unique, so two instants are written alike exactly if they show
the same: the reading form tells seconds apart, and a leap second from the second before it.

* **`Shows`** — the layout of both forms, without a writer: a date and a time of day, what stands between
  them, and what stands behind.
* **`Shows.unique`** — no text shows two dates or two times.
* **`Fraction`**, **`exists_fraction`** — a fraction of a second in digits, and that no fewer are exact.
* **`toText_eq_iff`** — when two instants have the same reading form.
-/

namespace AdminPanel.Time

/-! ## Digits -/

/-- A number in decimal digits, as many as it is wide. -/
structure InDigits (width n : Nat) (cs : List Char) : Prop where
  length : cs.length = width
  digits : ∀ c ∈ cs, c.isDigit = true
  value : Nat.ofDigitChars 10 cs 0 = n

theorem InDigits.unique {width width' n n' : Nat} {cs : List Char} (h : InDigits width n cs)
    (h' : InDigits width' n' cs) : n = n' :=
  h.value.symm.trans h'.value

/-- Of two texts that are the same, numbers of one width in front are the same, and so is what follows. -/
theorem InDigits.inj {width n n' : Nat} {cs cs' rest rest' : List Char} (h : InDigits width n cs)
    (h' : InDigits width n' cs') (same : cs ++ rest = cs' ++ rest') : n = n' ∧ rest = rest' := by
  obtain ⟨digits, follows⟩ := List.append_inj same (h.length.trans h'.length.symm)
  exact ⟨h.unique (digits ▸ h'), follows⟩

theorem InDigits.newline_not_mem {width n : Nat} {cs : List Char} (h : InDigits width n cs) : '\n' ∉ cs :=
  fun within => absurd (h.digits '\n' within) (by decide)

theorem inDigits_zeroPadded (width n : Nat) :
    InDigits (zeroPadded width n).length n (zeroPadded width n) where
  length := rfl
  digits := isDigit_of_mem_zeroPadded width n
  value := by rw [← DateReader.decimal_eq, DateReader.decimal_zeroPadded]

theorem inDigits_of_lt {width n : Nat} (fits : n < 10 ^ width) (pos : 0 < width) :
    InDigits width n (zeroPadded width n) := by
  have digits := inDigits_zeroPadded width n
  rwa [length_zeroPadded fits pos] at digits

/-- A year: four digits, or a sign and at least four digits. -/
inductive YearDigits : Int → List Char → Prop where
  | plain {n : Nat} {cs : List Char} (h : InDigits 4 n cs) : YearDigits n cs
  | before {width n : Nat} {cs : List Char} (wide : 4 ≤ width) (h : InDigits width n cs) :
    YearDigits (-n) ('-' :: cs)
  | after {width n : Nat} {cs : List Char} (wide : 4 ≤ width) (h : InDigits width n cs) :
    YearDigits n ('+' :: cs)

theorem YearDigits.unique {y y' : Int} {cs : List Char} (h : YearDigits y cs) (h' : YearDigits y' cs) :
    y = y' := by
  -- a sign is no digit, so the two have the same sign or none
  cases h with
  | plain h =>
    cases h' with
    | plain h' => rw [h.unique h']
    | before => exact absurd (h.digits '-' List.mem_cons_self) (by decide)
    | after => exact absurd (h.digits '+' List.mem_cons_self) (by decide)
  | before wide h =>
    cases h' with
    | plain h' => exact absurd (h'.digits '-' List.mem_cons_self) (by decide)
    | before wide' h' => rw [h.unique h']
  | after wide h =>
    cases h' with
    | plain h' => exact absurd (h'.digits '+' List.mem_cons_self) (by decide)
    | after wide' h' => rw [h.unique h']

theorem YearDigits.newline_not_mem {y : Int} {cs : List Char} (h : YearDigits y cs) : '\n' ∉ cs := by
  cases h with
  | plain h => exact h.newline_not_mem
  | before wide h => simpa using h.newline_not_mem
  | after wide h => simpa using h.newline_not_mem

theorem yearDigits_yearText (y : Int) : YearDigits y (yearText y) := by
  have wide (n : Nat) : 4 ≤ (zeroPadded 4 n).length := by
    simp only [zeroPadded, List.length_append, List.length_replicate]
    omega
  unfold yearText
  split
  · next plain =>
    have digits := YearDigits.plain (inDigits_of_lt (by omega : y.toNat < 10 ^ 4) (by decide))
    rwa [Int.toNat_of_nonneg plain.1] at digits
  · split
    · next negative =>
      have digits := YearDigits.before (wide y.natAbs) (inDigits_zeroPadded 4 y.natAbs)
      rwa [Int.ofNat_natAbs_of_nonpos (by omega), Int.neg_neg] at digits
    · next positive =>
      have digits := YearDigits.after (wide y.natAbs) (inDigits_zeroPadded 4 y.natAbs)
      rwa [Int.natAbs_of_nonneg (by omega)] at digits

/-! ## Dates and times of day -/

/-- A text that shows a date and a time of day, with a character between the two and more behind. -/
inductive Shows (d : Date) (hour minute second : Nat) (between : Char) (behind : List Char) (text : String) :
    Prop where
  | mk {year month day h m s : List Char} (hyear : YearDigits d.year year)
    (hmonth : InDigits 2 d.month month) (hday : InDigits 2 d.day day) (hhour : InDigits 2 hour h)
    (hminute : InDigits 2 minute m) (hsecond : InDigits 2 second s)
    (layout : text.toList = year ++ ('-' :: month ++ '-' :: day ++ between :: h ++ ':' :: m ++ ':' :: s
      ++ behind))

/-- What a text shows is unique. -/
theorem Shows.unique {d d' : Date} {hour hour' minute minute' second second' : Nat} {between between' : Char}
    {behind behind' : List Char} {text : String} (h : Shows d hour minute second between behind text)
    (h' : Shows d' hour' minute' second' between' behind' text) (same : behind.length = behind'.length) :
    d = d' ∧ hour = hour' ∧ minute = minute' ∧ second = second' := by
  obtain ⟨hyear, hmonth, hday, hhour, hminute, hsecond, layout⟩ := h
  obtain ⟨hyear', hmonth', hday', hhour', hminute', hsecond', layout'⟩ := h'
  -- all that stands behind the year is as long in one text as in the other
  have long := List.append_inj' (layout.symm.trans layout') (by
    simp [hmonth.length, hday.length, hhour.length, hminute.length, hsecond.length, hmonth'.length,
      hday'.length, hhour'.length, hminute'.length, hsecond'.length, same])
  obtain ⟨years, rest⟩ := long
  simp only [List.cons_append, List.append_assoc, List.cons.injEq, true_and] at rest
  obtain ⟨month, rest⟩ := hmonth.inj hmonth' rest
  obtain ⟨day, rest⟩ := hday.inj hday' (List.cons.inj rest).2
  obtain ⟨hour, rest⟩ := hhour.inj hhour' (List.cons.inj rest).2
  obtain ⟨minute, rest⟩ := hminute.inj hminute' (List.cons.inj rest).2
  obtain ⟨second, -⟩ := hsecond.inj hsecond' (List.cons.inj rest).2
  have year : d.year = d'.year := hyear.unique (years ▸ hyear')
  have date : d = d' := by
    obtain ⟨y, m, n⟩ := d
    obtain ⟨y', m', n'⟩ := d'
    rw [show y = y' from year, show m = m' from month, show n = n' from day]
  exact ⟨date, hour, minute, second⟩

/-! ## Fractions -/

/-- A fraction of a second in a number of digits that is exact; without digits there is no point. -/
inductive Fraction (nanos : Nat) : Nat → List Char → Prop where
  | none (whole : nanos = 0) : Fraction nanos 0 []
  | digits {width n : Nat} {cs : List Char} (pos : 0 < width) (h : InDigits width n cs)
    (exact' : n * 10 ^ (9 - width) = nanos) : Fraction nanos width ('.' :: cs)

theorem Fraction.dvd {nanos width : Nat} {cs : List Char} (h : Fraction nanos width cs) :
    10 ^ (9 - width) ∣ nanos := by
  cases h with
  | none whole => exact whole.symm ▸ Nat.dvd_zero (10 ^ 9)
  | digits pos h exact' => exact ⟨_, exact'.symm.trans (Nat.mul_comm _ _)⟩

/-- The fraction is written in the fewest groups of three digits that are exact. -/
theorem exists_fraction {nanos : Nat} (small : nanos < nanosPerSecond) :
    ∃ width ∈ [0, 3, 6, 9], Fraction nanos width (fractionText nanos) ∧
      ∀ width' ∈ [0, 3, 6, 9], ∀ cs, Fraction nanos width' cs → width ≤ width' := by
  have limit : nanosPerSecond = 1000000000 := rfl
  -- fewer digits are exact only of a multiple of more
  have fewest (width : Nat) (short : 0 < width → nanos ≠ 0)
      (short₃ : 3 < width → ¬ 1000000 ∣ nanos) (short₆ : 6 < width → ¬ 1000 ∣ nanos) (most : width ≤ 9) :
      ∀ width' ∈ [0, 3, 6, 9], ∀ cs, Fraction nanos width' cs → width ≤ width' := by
    intro width' one cs h
    have dvd := h.dvd
    simp only [List.mem_cons, List.not_mem_nil, or_false] at one
    rcases one with rfl | rfl | rfl | rfl
    · have whole : nanos = 0 := Nat.eq_zero_of_dvd_of_lt dvd small
      exact Nat.not_lt.mp fun more => short more whole
    · exact Nat.not_lt.mp fun more => short₃ more dvd
    · exact Nat.not_lt.mp fun more => short₆ more dvd
    · exact most
  unfold fractionText
  split
  · next whole => exact ⟨0, by decide, .none whole, fun _ _ _ _ => Nat.zero_le _⟩
  · next some' =>
    split
    · exact ⟨3, by decide, .digits (by decide) (inDigits_of_lt (by omega) (by decide)) (by omega),
        fewest 3 (fun _ => some') (by omega) (by omega) (by omega)⟩
    · split
      · exact ⟨6, by decide, .digits (by decide) (inDigits_of_lt (by omega) (by decide)) (by omega),
          fewest 6 (fun _ => some') (by omega) (by omega) (by omega)⟩
      · exact ⟨9, by decide, .digits (by decide) (inDigits_of_lt (by omega) (by decide)) (by omega),
          fewest 9 (fun _ => some') (by omega) (by omega) (by omega)⟩

/-! ## Written instants -/

namespace Instant

/-- The hour of the day. -/
def hour (t : Instant) : Nat := t.secondOfDay / 3600

/-- The minute of the hour. -/
def minute (t : Instant) : Nat := t.secondOfDay / 60 % 60

/-- What the clock shows is the time of the day: the second that is counted, and the sixtieth behind it
in a leap second. -/
theorem clock_spec (t : Instant) :
    t.hour < 24 ∧ t.minute < 60 ∧ t.clockSecond ≤ 60 ∧
      ((t.hour * 3600 + t.minute * 60 + t.clockSecond : Nat) : Int) =
        t.seconds % 86400 + (if nanosPerSecond ≤ t.nanos then 1 else 0) ∧
      (t.clockSecond = 60 ↔ nanosPerSecond ≤ t.nanos) ∧
      t.clockNanos = t.nanos % nanosPerSecond := by
  have day := secondOfDay_lt t
  have counted : (t.secondOfDay : Int) = t.seconds % 86400 := by
    unfold secondOfDay
    omega
  have below := t.valid.2
  have second := clockSecond_le t
  simp only [hour, minute, clockNanos, clockSecond, isLeap, nanosPerSecond] at below second ⊢
  by_cases leap : 1000000000 ≤ t.nanos
  · have last : t.seconds % 60 = 59 := by omega
    simp only [leap, decide_true, ↓reduceIte, iff_true] at second ⊢
    refine ⟨?_, ?_, ?_, ?_, ?_, ?_⟩ <;> omega
  · simp only [leap, decide_false, Bool.false_eq_true, ↓reduceIte, iff_false] at second ⊢
    refine ⟨?_, ?_, ?_, ?_, ?_, ?_⟩ <;> omega

variable {t u : Instant}

theorem shows_of_layout (t : Instant) (between : Char) (behind : List Char) :
    Shows t.date t.hour t.minute t.clockSecond between behind
      (String.ofList (t.date.text ++ between :: t.clockText ++ behind)) := by
  obtain ⟨h, m, s, -⟩ := clock_spec t
  obtain ⟨m₁, m₂, n₁, n₂⟩ := Date.isValid_ofDayNumber (t.seconds / 86400)
  have short := Nat.le_trans n₂ (Date.daysInMonth_le _ _)
  have two (n : Nat) (fits : n < 100) : InDigits 2 n (zeroPadded 2 n) := inDigits_of_lt fits (by decide)
  refine .mk (yearDigits_yearText t.date.year) (two t.date.month (by unfold date; omega))
    (two t.date.day (by unfold date; omega)) (two t.hour (by omega)) (two t.minute (by omega))
    (two t.clockSecond (by omega)) ?_
  simp [Date.text, clockText, hour, minute]

/-- The reading form shows the date and the time of day. -/
theorem shows_toText (t : Instant) :
    Shows t.date t.hour t.minute t.clockSecond ' ' [' ', 'U', 'T', 'C'] t.toText :=
  shows_of_layout t ' ' _

/-- The interchange form also shows the fraction. -/
theorem shows_rfc3339 (t : Instant) :
    Shows t.date t.hour t.minute t.clockSecond 'T' (fractionText t.clockNanos ++ ['Z']) t.rfc3339 := by
  have shown := shows_of_layout t 'T' (fractionText t.clockNanos ++ ['Z'])
  rwa [← List.append_assoc] at shown

/-- **Two instants have the same reading form exactly if they lie in the same second**, where a leap second
is a second of its own. -/
theorem toText_eq_iff :
    t.toText = u.toText ↔ t.seconds = u.seconds ∧ (nanosPerSecond ≤ t.nanos ↔ nanosPerSecond ≤ u.nanos) := by
  obtain ⟨-, -, -, clock, leap, -⟩ := clock_spec t
  obtain ⟨-, -, -, clock', leap', -⟩ := clock_spec u
  constructor
  · intro same
    have shown := shows_toText t
    rw [same] at shown
    obtain ⟨date, hour, minute, second⟩ := shown.unique (shows_toText u) rfl
    -- a date is the name of one day only
    have day : t.seconds / 86400 = u.seconds / 86400 := by
      rw [← Date.dayNumber_ofDayNumber (t.seconds / 86400), ← Date.dayNumber_ofDayNumber (u.seconds / 86400)]
      exact congrArg Date.dayNumber date
    rw [hour, minute, second] at clock
    rw [second] at leap
    have both := leap.symm.trans leap'
    refine ⟨?_, both⟩
    simp only [both] at clock
    omega
  · rintro ⟨seconds, both⟩
    have second : t.secondOfDay = u.secondOfDay := by rw [secondOfDay, seconds, secondOfDay]
    have flag : t.isLeap = u.isLeap := by simpa [isLeap] using both
    simp only [toText, date, clockText, clockSecond, seconds, second, flag]

end Instant

/-- A time stands on one line. -/
theorem newline_not_mem_timeText (t : Option Instant) : '\n' ∉ (timeText t).toList := by
  cases t with
  | none => decide
  | some t =>
    obtain ⟨hyear, hmonth, hday, hhour, hminute, hsecond, layout⟩ := t.shows_toText
    rw [show timeText (some t) = t.toText from rfl, layout]
    simp [hyear.newline_not_mem, hmonth.newline_not_mem, hday.newline_not_mem, hhour.newline_not_mem,
      hminute.newline_not_mem, hsecond.newline_not_mem]

end AdminPanel.Time
