import AdminPanel.Proofs.Time.Civil
import Mathlib.Data.Int.Init

/-!
# The calendar, day by day

The proleptic Gregorian calendar goes on from one day to the next: to the next day of the month, behind
the last one to the first of the next month, and behind December to the next year. Together with one day
that is known, this says what the date of every day is, before and after it.

## The architecture

* **`Date.next`**, **`OnDay`** — the day after a date, and the dates of the days, from the first of January
  1970 in both directions. Nothing is counted here.
* **`ofDayNumber_dayNumber`** — the date of the number of a date is that date, which is the other half of
  `dayNumber_ofDayNumber`: no two dates of the calendar have the same number.
* **`onDay_iff`** — the counted dates are those of the calendar.
* **`isWithin_iff_year`** — the seconds of the calendar of instants are those of its years.
-/

namespace AdminPanel.Time

/-- The day after a date. -/
def Date.next (d : Date) : Date :=
  if d.day < daysInMonth d.year d.month then ⟨d.year, d.month, d.day + 1⟩
  else if d.month < 12 then ⟨d.year, d.month + 1, 1⟩
  else ⟨d.year + 1, 1, 1⟩

/-- The date of a day: days go on one after the other, forward and backward from the first of January
1970, which is day 0. -/
inductive OnDay : Int → Date → Prop where
  | epoch : OnDay 0 ⟨1970, 1, 1⟩
  | next {n : Int} {d : Date} (h : OnDay n d) : OnDay (n + 1) d.next
  | previous {n : Int} {d : Date} (valid : d.IsValid) (h : OnDay (n + 1) d.next) : OnDay n d

/-! ## Dates by their March year -/

/-- The March year of a date. -/
def Date.marchYear (d : Date) : Int := if d.month ≤ 2 then d.year - 1 else d.year

/-- The month of a date, counted from March. -/
def Date.marchMonth (d : Date) : Nat := if d.month ≤ 2 then d.month + 9 else d.month - 3

/-- The day of the March year. -/
def Date.marchDay (d : Date) : Nat := daysBeforeMonth d.marchMonth + (d.day - 1)

/-- The months of a March year that ends leap: from each of their days the month is found again, and the
last day of the year is a 29th of February. -/
theorem month_of_marchDay : ∀ m < 12, ∀ day < daysInMonth 4 (if m < 10 then m + 3 else m - 9),
    (5 * (daysBeforeMonth m + day) + 2) / 153 = m ∧ daysBeforeMonth m + day ≤ 365 ∧
      (daysBeforeMonth m + day = 365 → m = 11 ∧ day = 28) := by
  decide +kernel

/-- The days before a March year. -/
def daysBeforeMarch (y : Int) : Int := 365 * y + y / 4 - y / 100 + y / 400

/-- A March year has 365 days, or 366 if it ends with the 29th of February. -/
theorem daysBeforeMarch_succ (y : Int) :
    (EndsLeap y → daysBeforeMarch (y + 1) = daysBeforeMarch y + 366) ∧
      (¬ EndsLeap y → daysBeforeMarch (y + 1) = daysBeforeMarch y + 365) := by
  have fours : (y + 1) / 4 = y / 4 + 1 ∧ (y + 1) % 4 = 0 ∨ (y + 1) / 4 = y / 4 ∧ (y + 1) % 4 ≠ 0 := by
    omega
  have hundreds : (y + 1) / 100 = y / 100 + 1 ∧ (y + 1) % 100 = 0 ∨
      (y + 1) / 100 = y / 100 ∧ (y + 1) % 100 ≠ 0 := by omega
  have cycles : (y + 1) / 400 = y / 400 + 1 ∧ (y + 1) % 400 = 0 ∨
      (y + 1) / 400 = y / 400 ∧ (y + 1) % 400 ≠ 0 := by omega
  unfold EndsLeap daysBeforeMarch
  rcases fours with ⟨f, f'⟩ | ⟨f, f'⟩ <;> rcases hundreds with ⟨h, h'⟩ | ⟨h, h'⟩ <;>
    rcases cycles with ⟨c, c'⟩ | ⟨c, c'⟩ <;> rw [f, h, c] <;> omega

/-- Later March years have more days before them. -/
theorem daysBeforeMarch_mono {y y' : Int} (h : y ≤ y') : daysBeforeMarch y ≤ daysBeforeMarch y' := by
  have hundreds : y' / 100 - y / 100 ≤ y' - y := by omega
  unfold daysBeforeMarch
  omega

namespace Date

variable {d : Date}

/-- No month is longer than it is in a leap year. -/
theorem daysInMonth_le_leap (y : Int) (m : Nat) : daysInMonth y m ≤ daysInMonth 4 m := by
  unfold daysInMonth
  split
  · split <;> simp [isLeapYear]
  · exact Nat.le_refl _

theorem daysInMonth_le (y : Int) (m : Nat) : daysInMonth y m ≤ 31 := by
  unfold daysInMonth
  split
  · split <;> omega
  · split <;> omega

/-- A February with a 29th belongs to a leap year. -/
theorem isLeapYear_of_february {y : Int} (long : 28 < daysInMonth y 2) : isLeapYear y = true := by
  cases leap : isLeapYear y with
  | true => rfl
  | false => simp [daysInMonth, leap] at long

theorem endsLeap_pred_iff {y : Int} : EndsLeap (y - 1) ↔ isLeapYear y = true := by
  simp [isLeapYear, EndsLeap]

/-- A date lies within its March year, and its month can be told from the day of that year. -/
theorem marchDay_spec (valid : d.IsValid) :
    d.marchMonth < 12 ∧ (5 * d.marchDay + 2) / 153 = d.marchMonth ∧ d.marchDay ≤ 365 ∧
      (d.marchDay = 365 → EndsLeap d.marchYear) := by
  obtain ⟨y, m, n⟩ := d
  obtain ⟨m₁, m₂, n₁, n₂⟩ := valid
  simp only at m₁ m₂ n₁ n₂
  have fits : n - 1 < daysInMonth 4 m := by
    have := daysInMonth_le_leap y m
    omega
  simp only [marchDay, marchMonth, marchYear]
  -- January and February are counted to the year before, whose last day is the leap day
  by_cases winter : m ≤ 2
  · have back : (if m + 9 < 10 then m + 9 + 3 else m + 9 - 9) = m := by
      split <;> omega
    obtain ⟨found, inside, last⟩ := month_of_marchDay (m + 9) (by omega) (n - 1) (by rwa [back])
    simp only [winter, ↓reduceIte]
    refine ⟨by omega, found, inside, fun full => ?_⟩
    obtain ⟨february, day⟩ := last full
    obtain rfl : m = 2 := by omega
    exact endsLeap_pred_iff.mpr (isLeapYear_of_february (by omega))
  · have back : (if m - 3 < 10 then m - 3 + 3 else m - 3 - 9) = m := by
      split <;> omega
    obtain ⟨found, inside, last⟩ := month_of_marchDay (m - 3) (by omega) (n - 1) (by rwa [back])
    simp only [winter, ↓reduceIte]
    exact ⟨by omega, found, inside, fun full => absurd (last full).1 (by omega)⟩

/-- A date by its March year and the day of that year is the date. -/
theorem ofMarchYear_march (valid : d.IsValid) : ofMarchYear d.marchYear d.marchDay = d := by
  obtain ⟨-, found, -⟩ := marchDay_spec valid
  obtain ⟨y, m, n⟩ := d
  obtain ⟨m₁, m₂, n₁, n₂⟩ := valid
  simp only at m₁ m₂ n₁ n₂
  rw [ofMarchYear, found]
  simp only [marchDay, marchMonth, marchYear]
  by_cases winter : m ≤ 2
  · have late : ¬ m + 9 < 10 := by omega
    simp only [winter, ↓reduceIte, late, Nat.add_sub_cancel, Int.sub_add_cancel, mk.injEq, true_and]
    omega
  · have early : m - 3 < 10 := by omega
    have spring : ¬ m - 3 + 3 ≤ 2 := by omega
    simp only [winter, ↓reduceIte, early, spring, mk.injEq, true_and]
    omega

/-- The number of a date: the days before its March year, and its day in that year. -/
theorem dayNumber_eq (valid : d.IsValid) :
    d.dayNumber = daysBeforeMarch d.marchYear + d.marchDay - 719468 := by
  obtain ⟨y, m, n⟩ := d
  obtain ⟨m₁, m₂, n₁, n₂⟩ := valid
  simp only at n₁
  simp only [dayNumber, daysBeforeMarch, marchDay, marchMonth, marchYear]
  by_cases winter : m ≤ 2
  · simp only [winter, ↓reduceIte]
    omega
  · simp only [winter, ↓reduceIte]
    omega

/-- The number of a date tells its March year and the day of that year. -/
theorem march_of_dayNumber {e : Date} (valid : d.IsValid) (valid' : e.IsValid)
    (same : d.dayNumber = e.dayNumber) : d.marchYear = e.marchYear ∧ d.marchDay = e.marchDay := by
  have before (d e : Date) (valid : d.IsValid) (valid' : e.IsValid)
      (same : d.dayNumber = e.dayNumber) : ¬ d.marchYear < e.marchYear := by
    intro earlier
    obtain ⟨-, -, inside, leap⟩ := marchDay_spec valid
    obtain ⟨long, short⟩ := daysBeforeMarch_succ d.marchYear
    have later := daysBeforeMarch_mono (Int.add_one_le_of_lt earlier)
    rw [dayNumber_eq valid, dayNumber_eq valid'] at same
    -- a year of 366 days has room for the last of them
    by_cases leapYear : EndsLeap d.marchYear
    · have := long leapYear
      omega
    · have := short leapYear
      have notLast : d.marchDay ≠ 365 := fun last => leapYear (leap last)
      omega
  have year : d.marchYear = e.marchYear := by
    have := before d e valid valid' same
    have := before e d valid' valid same.symm
    omega
  rw [dayNumber_eq valid, dayNumber_eq valid', year] at same
  exact ⟨year, by omega⟩

/-- **The date of the number of a date is the date.** -/
theorem ofDayNumber_dayNumber (valid : d.IsValid) : ofDayNumber d.dayNumber = d := by
  have valid' := isValid_ofDayNumber d.dayNumber
  obtain ⟨year, day⟩ := march_of_dayNumber valid' valid (dayNumber_ofDayNumber d.dayNumber)
  rw [← ofMarchYear_march valid', year, day, ofMarchYear_march valid]

/-! ## The day after -/

theorem daysInMonth_pos (y : Int) (m : Nat) : 1 ≤ daysInMonth y m := by
  unfold daysInMonth
  split
  · split <;> omega
  · split <;> omega

theorem isValid_next (valid : d.IsValid) : d.next.IsValid := by
  obtain ⟨y, m, n⟩ := d
  obtain ⟨m₁, m₂, n₁, n₂⟩ := valid
  simp only at m₁ m₂ n₁ n₂
  unfold next
  split
  · next more => exact ⟨m₁, m₂, Nat.le_add_left 1 n, more⟩
  · split
    · next more => exact ⟨Nat.le_add_left 1 m, more, Nat.le_refl 1, daysInMonth_pos y (m + 1)⟩
    · exact ⟨Nat.le_refl 1, show 1 ≤ 12 by decide, Nat.le_refl 1, daysInMonth_pos (y + 1) 1⟩

/-- Behind the last day of a month the next one begins. -/
theorem dayNumber_nextMonth (y : Int) {m : Nat} (m₁ : 1 ≤ m) (m₂ : m < 12) :
    (⟨y, m + 1, 1⟩ : Date).dayNumber = (⟨y, m, daysInMonth y m⟩ : Date).dayNumber + 1 := by
  rcases (by omega : m = 1 ∨ m = 2 ∨ m = 3 ∨ m = 4 ∨ m = 5 ∨ m = 6 ∨ m = 7 ∨ m = 8 ∨ m = 9 ∨
    m = 10 ∨ m = 11) with
    rfl | rfl | rfl | rfl | rfl | rfl | rfl | rfl | rfl | rfl | rfl
  case inr.inl =>
    -- March begins the year of which February was the end
    obtain ⟨long, short⟩ := daysBeforeMarch_succ (y - 1)
    have valid : (⟨y, 2, daysInMonth y 2⟩ : Date).IsValid :=
      ⟨show 1 ≤ 2 by decide, show 2 ≤ 12 by decide, daysInMonth_pos y 2, Nat.le_refl _⟩
    have valid' : (⟨y, 3, 1⟩ : Date).IsValid :=
      ⟨show 1 ≤ 3 by decide, show 3 ≤ 12 by decide, Nat.le_refl 1, daysInMonth_pos y 3⟩
    rw [Int.sub_add_cancel] at long short
    rw [dayNumber_eq valid, dayNumber_eq valid']
    cases leap : isLeapYear y with
    | true =>
      have days := long (endsLeap_pred_iff.mpr leap)
      simp [marchYear, marchDay, marchMonth, daysBeforeMonth, daysInMonth, leap]
      omega
    | false =>
      have days := short fun ends => by simp [endsLeap_pred_iff.mp ends] at leap
      simp [marchYear, marchDay, marchMonth, daysBeforeMonth, daysInMonth, leap]
      omega
  all_goals
    simp [dayNumber, daysInMonth, daysBeforeMonth]
    try omega

/-- The day after has the next number. -/
theorem dayNumber_next (valid : d.IsValid) : d.next.dayNumber = d.dayNumber + 1 := by
  obtain ⟨y, m, n⟩ := d
  obtain ⟨m₁, m₂, n₁, n₂⟩ := valid
  simp only at m₁ m₂ n₁ n₂
  unfold next
  by_cases more : n < daysInMonth y m
  · simp only [more, ↓reduceIte, dayNumber]
    split <;> omega
  obtain rfl : n = daysInMonth y m := by omega
  by_cases sameYear : m < 12
  · simp only [more, sameYear, ↓reduceIte]
    exact dayNumber_nextMonth y m₁ sameYear
  · obtain rfl : m = 12 := by omega
    simp [dayNumber, daysInMonth, daysBeforeMonth]
    omega

/-- The date of the next day is the day after. -/
theorem ofDayNumber_succ (n : Int) : ofDayNumber (n + 1) = (ofDayNumber n).next := by
  have valid := isValid_ofDayNumber n
  have number : (ofDayNumber n).next.dayNumber = n + 1 := by
    rw [dayNumber_next valid, dayNumber_ofDayNumber]
  rw [← number, ofDayNumber_dayNumber (isValid_next valid)]

end Date

/-- **The date that is counted is the date of the calendar.** -/
theorem onDay_iff {n : Int} {d : Date} : OnDay n d ↔ d = Date.ofDayNumber n := by
  constructor
  · intro h
    -- induction on the way from the first of January 1970
    induction h with
    | epoch => decide
    | @next n d _ ih => rw [Date.ofDayNumber_succ, ih]
    | @previous n d valid _ ih =>
      have number : d.dayNumber + 1 = n + 1 := by
        rw [← Date.dayNumber_next valid, ih, Date.dayNumber_ofDayNumber]
      have same : d.dayNumber = n := by omega
      rw [← same, Date.ofDayNumber_dayNumber valid]
  · rintro rfl
    induction n using Int.induction_on with
    | zero => exact .epoch
    | succ n ih => exact Date.ofDayNumber_succ n ▸ ih.next
    | pred n ih =>
      refine .previous (Date.isValid_ofDayNumber _) ?_
      rw [← Date.ofDayNumber_succ, Int.sub_add_cancel]
      exact ih

/-! ## The calendar of instants -/

theorem firstSecond_eq : firstSecond = -96465292 * 86400 := by decide

theorem lastSecond_eq : lastSecond = 95026236 * 86400 + 86399 := by decide

/-- A day of January or February is one of the last of its March year. -/
theorem Date.marchDay_lt_iff {d : Date} (valid : d.IsValid) : d.marchDay < 306 ↔ 2 < d.month := by
  obtain ⟨-, found, -⟩ := marchDay_spec valid
  obtain ⟨m₁, m₂, -⟩ := valid
  unfold marchMonth at found
  split at found <;> omega

/-- **The seconds of the calendar of instants are those of the years from -262143 to 262142.** -/
theorem isWithin_iff_year {seconds : Int} :
    (firstSecond ≤ seconds ∧ seconds ≤ lastSecond) ↔
      -262143 ≤ (Date.ofDayNumber (seconds / 86400)).year ∧
        (Date.ofDayNumber (seconds / 86400)).year ≤ 262142 := by
  constructor
  · rintro ⟨first, last⟩
    rw [firstSecond_eq] at first
    refine Date.year_ofDayNumber ?_ ?_
    · rw [firstSecond_eq]
      omega
    · omega
  · have valid := Date.isValid_ofDayNumber (seconds / 86400)
    have number := Date.dayNumber_ofDayNumber (seconds / 86400)
    have early := Date.marchDay_lt_iff valid
    obtain ⟨-, -, inside, -⟩ := Date.marchDay_spec valid
    rw [Date.dayNumber_eq valid] at number
    generalize Date.ofDayNumber (seconds / 86400) = d at valid number early inside
    rintro ⟨first, last⟩
    rw [firstSecond_eq, lastSecond_eq]
    -- the bounds are years from January on, the counting of days is from March on: either side of it
    by_cases winter : d.month ≤ 2
    · have year : d.marchYear = d.year - 1 := if_pos winter
      have low : daysBeforeMarch (-262144) ≤ daysBeforeMarch d.marchYear :=
        daysBeforeMarch_mono (by omega)
      have high : daysBeforeMarch d.marchYear ≤ daysBeforeMarch 262141 :=
        daysBeforeMarch_mono (by omega)
      simp only [daysBeforeMarch] at low high number
      omega
    · have year : d.marchYear = d.year := if_neg winter
      have low : daysBeforeMarch (-262143) ≤ daysBeforeMarch d.marchYear :=
        daysBeforeMarch_mono (by omega)
      have high : daysBeforeMarch d.marchYear ≤ daysBeforeMarch 262142 :=
        daysBeforeMarch_mono (by omega)
      simp only [daysBeforeMarch] at low high number
      omega

end AdminPanel.Time
