import AdminPanel.Time.Instant

/-!
# Days and dates

Counting the days of a date and finding the date of a day are inverse to each other, for all days
before and after the start of the count. Both work with years that begin in March, so the proof goes
through them, too.

## The architecture

* **`Date.ofMarchYear`** — a date by its March year and the day of that year. What the month of such a
  day is, and how long it is, is a table of 366 rows (`month_of_day`).
* **`exists_parts`** — a day of the cycle of four hundred years by century, four years, year and day.
  It shows that the division by approximate years finds the right one (`yearOfCycle_spec`).
* **`dayNumber_ofDayNumber`**, **`isValid_ofDayNumber`** — the date of a day has this day's number, and
  the calendar has it.
-/

namespace AdminPanel.Time

/-! ## The cycle of four hundred years -/

/-- The March year of a day of the cycle. -/
def yearOfCycle (day : Nat) : Nat :=
  (day - day / 1460 + day / 36524 - day / 146096) / 365

/-- The days of the cycle before a March year. -/
def daysBeforeYear (year : Nat) : Nat := 365 * year + year / 4 - year / 100

/-- A date by its March year and the day of that year. -/
def Date.ofMarchYear (year : Int) (day : Nat) : Date :=
  let m := (5 * day + 2) / 153
  let month := if m < 10 then m + 3 else m - 9
  ⟨if month ≤ 2 then year + 1 else year, month, day - daysBeforeMonth m + 1⟩

theorem Date.ofDayNumber_eq (n : Int) :
    Date.ofDayNumber n =
      let day := ((n + 719468) % 146097).toNat
      .ofMarchYear (yearOfCycle day + (n + 719468) / 146097 * 400)
        (day - daysBeforeYear (yearOfCycle day)) := rfl

/-- A day of the cycle by century, block of four years, year and day. The last day of a leap year is
the last of its block, and a block that ends a century ends with it only in the last century. -/
theorem exists_parts {day : Nat} (inside : day < 146097) :
    ∃ c k j d, c ≤ 3 ∧ k ≤ 24 ∧ j ≤ 3 ∧ d ≤ 365 ∧ day = 36524 * c + 1461 * k + 365 * j + d ∧
      (d = 365 → j = 3 ∧ (k < 24 ∨ c = 3)) := by
  obtain ⟨c, r, hc, hr, hday⟩ : ∃ c r, c ≤ 3 ∧ r ≤ 36524 ∧ day = 36524 * c + r ∧
      True ∧ (r = 36524 → c = 3) := by
    by_cases last : day = 146096
    · exact ⟨3, 36524, by omega, by omega, by omega, trivial, fun _ => rfl⟩
    · exact ⟨day / 36524, day % 36524, by omega, by omega, by omega, trivial, by omega⟩
  obtain ⟨hday, -, hlast⟩ := hday
  obtain ⟨k, s, hk, hs, hr'⟩ : ∃ k s, k ≤ 24 ∧ s ≤ 1460 ∧ r = 1461 * k + s :=
    ⟨r / 1461, r % 1461, by omega, by omega, by omega⟩
  by_cases leap : s = 1460
  · exact ⟨c, k, 3, 365, hc, hk, by omega, by omega, by omega, fun _ => ⟨rfl, by omega⟩⟩
  · exact ⟨c, k, s / 365, s % 365, hc, hk, by omega, by omega, by omega, by omega⟩

/-- Whether a March year ends with the 29th of February. -/
def EndsLeap (year : Int) : Prop :=
  (year + 1) % 4 = 0 ∧ ((year + 1) % 100 ≠ 0 ∨ (year + 1) % 400 = 0)

/-- The year that the division finds is the one that the day lies in. -/
theorem yearOfCycle_spec {day : Nat} (inside : day < 146097) :
    yearOfCycle day < 400 ∧ daysBeforeYear (yearOfCycle day) ≤ day ∧
      day - daysBeforeYear (yearOfCycle day) ≤ 365 ∧
      (day - daysBeforeYear (yearOfCycle day) = 365 → EndsLeap (yearOfCycle day)) := by
  obtain ⟨c, k, j, d, hc, hk, hj, hd, hday, hleap⟩ := exists_parts inside
  have year : yearOfCycle day = 100 * c + 4 * k + j := by
    -- days divided by years that are a little short: off by one exactly on the leap day
    have quarter : day / 1460 = 25 * c + k ∨ day / 1460 = 25 * c + k + 1 := by omega
    have century : day / 36524 - day / 146096 = c ∧ day / 146096 ≤ day / 36524 := by omega
    unfold yearOfCycle
    omega
  have fours : (100 * c + 4 * k + j) / 4 = 25 * c + k := by omega
  have hundreds : (100 * c + 4 * k + j) / 100 = c := by omega
  have before : daysBeforeYear (100 * c + 4 * k + j) = 36524 * c + 1461 * k + 365 * j := by
    rw [daysBeforeYear, fours, hundreds]
    omega
  rw [year, before]
  refine ⟨by omega, by omega, by omega, ?_⟩
  intro last
  obtain ⟨rfl, short⟩ := hleap (by omega)
  unfold EndsLeap
  omega

/-! ## The months of a March year -/

/-- The months of a March year: where they begin, and how long they are. February is the last and has
a 29th only on the last day of a leap year. -/
theorem month_of_day : ∀ day < 366,
    (5 * day + 2) / 153 ≤ 11 ∧ daysBeforeMonth ((5 * day + 2) / 153) ≤ day ∧
      ((5 * day + 2) / 153 < 10 ↔ day < 306) ∧
      ((5 * day + 2) / 153 < 10 →
        day - daysBeforeMonth ((5 * day + 2) / 153) + 1
          ≤ daysInMonth 1 ((5 * day + 2) / 153 + 3)) ∧
      ((5 * day + 2) / 153 = 10 → day - daysBeforeMonth ((5 * day + 2) / 153) + 1 ≤ 31) ∧
      ((5 * day + 2) / 153 = 11 → day - daysBeforeMonth ((5 * day + 2) / 153) + 1 ≤ 28 ∨
        day = 365 ∧ day - daysBeforeMonth ((5 * day + 2) / 153) + 1 = 29) := by
  decide +kernel

namespace Date

variable {year : Int} {day : Nat}

/-- The calendar has every day of a March year. -/
theorem isValid_ofMarchYear (inside : day ≤ 365) (leap : day = 365 → EndsLeap year) :
    (ofMarchYear year day).IsValid := by
  obtain ⟨last, -, -, spring, january, february⟩ := month_of_day day (by omega)
  unfold ofMarchYear IsValid
  by_cases early : (5 * day + 2) / 153 < 10
  · have fits := spring early
    -- no month but February depends on the year
    have same : daysInMonth year ((5 * day + 2) / 153 + 3)
        = daysInMonth 1 ((5 * day + 2) / 153 + 3) := by
      have notFebruary : (5 * day + 2) / 153 + 3 ≠ 2 := by omega
      simp [daysInMonth, notFebruary]
    have late : ¬ (5 * day + 2) / 153 + 3 ≤ 2 := by omega
    simp only [early, ↓reduceIte, late, same]
    omega
  · rcases (by omega : (5 * day + 2) / 153 = 10 ∨ (5 * day + 2) / 153 = 11) with m | m
    · have fits := january m
      rw [m] at fits
      simp [m, daysInMonth, fits]
    · have fits := february m
      rw [m] at fits
      rcases fits with fits | ⟨rfl, fits⟩
      · have long : 28 ≤ daysInMonth (year + 1) 2 := by
          unfold daysInMonth
          split <;> split <;> omega
        simp [m]
        omega
      · have leapYear : isLeapYear (year + 1) = true := by
          have ends := leap rfl
          simpa [isLeapYear, EndsLeap] using ends
        simp [fits, daysInMonth, leapYear]

/-- The days before a day of a March year. -/
theorem dayNumber_ofMarchYear (inside : day ≤ 365) (cycle : Int) {year : Nat} (short : year < 400) :
    (ofMarchYear (year + cycle * 400) day).dayNumber =
      cycle * 146097 + (daysBeforeYear year + day : Nat) - 719468 := by
  obtain ⟨last, before, -⟩ := month_of_day day (by omega)
  unfold ofMarchYear dayNumber daysBeforeYear
  by_cases early : (5 * day + 2) / 153 < 10
  · have late : ¬ (5 * day + 2) / 153 + 3 ≤ 2 := by omega
    simp only [early, ↓reduceIte, late, Nat.add_sub_cancel]
    omega
  · have early' : (5 * day + 2) / 153 - 9 ≤ 2 := by omega
    have month : (5 * day + 2) / 153 - 9 + 9 = (5 * day + 2) / 153 := by omega
    simp only [early, ↓reduceIte, early', month, Int.add_sub_cancel]
    omega

theorem year_ofMarchYear (inside : day ≤ 365) :
    (ofMarchYear year day).year = if day < 306 then year else year + 1 := by
  obtain ⟨last, -, autumn, -⟩ := month_of_day day (by omega)
  unfold ofMarchYear
  by_cases early : day < 306
  · have spring : (5 * day + 2) / 153 < 10 := autumn.mpr early
    have late : ¬ (5 * day + 2) / 153 + 3 ≤ 2 := by omega
    simp only [early, spring, late, ↓reduceIte]
  · have winter : ¬ (5 * day + 2) / 153 < 10 := fun h => early (autumn.mp h)
    have first : (5 * day + 2) / 153 - 9 ≤ 2 := by omega
    simp only [early, winter, first, ↓reduceIte]

/-! ## All days -/

/-- **The date of a day has the number of the day.** -/
theorem dayNumber_ofDayNumber (n : Int) : (ofDayNumber n).dayNumber = n := by
  have inside : ((n + 719468) % 146097).toNat < 146097 := by omega
  obtain ⟨short, before, within, -⟩ := yearOfCycle_spec inside
  rw [ofDayNumber_eq]
  simp only
  rw [dayNumber_ofMarchYear within _ short]
  omega

/-- **The calendar has the date of a day.** -/
theorem isValid_ofDayNumber (n : Int) : (ofDayNumber n).IsValid := by
  have inside : ((n + 719468) % 146097).toNat < 146097 := by omega
  obtain ⟨-, -, within, leap⟩ := yearOfCycle_spec inside
  rw [ofDayNumber_eq]
  refine isValid_ofMarchYear within fun last => ?_
  have ends := leap last
  unfold EndsLeap at ends ⊢
  omega

/-- The days of the calendar of instants have dates of its years. -/
theorem year_ofDayNumber {n : Int} (first : firstSecond ≤ n * 86400)
    (last : n * 86400 ≤ lastSecond) :
    -262143 ≤ (ofDayNumber n).year ∧ (ofDayNumber n).year ≤ 262142 := by
  have inside : ((n + 719468) % 146097).toNat < 146097 := by omega
  obtain ⟨short, before, within, -⟩ := yearOfCycle_spec inside
  have low : firstSecond = -8334601228800 := by decide
  have high : lastSecond = 8210266876799 := by decide
  rw [low] at first
  rw [high] at last
  rw [ofDayNumber_eq]
  simp only
  rw [year_ofMarchYear within]
  generalize yearOfCycle ((n + 719468) % 146097).toNat = year at short before within ⊢
  have whole := Int.mul_ediv_add_emod (n + 719468) 146097
  generalize (n + 719468) / 146097 = cycle at whole ⊢
  unfold daysBeforeYear at before within ⊢
  -- only in the first and in the last cycle does the day count
  have cycles : cycle < -656 ∨ cycle = -656 ∨ -656 < cycle := by omega
  have cycles' : cycle < 655 ∨ cycle = 655 ∨ 655 < cycle := by omega
  constructor
  · rcases cycles with early | rfl | late <;> split <;> omega
  · rcases cycles' with early | rfl | late <;> split <;> omega

end Date

end AdminPanel.Time
