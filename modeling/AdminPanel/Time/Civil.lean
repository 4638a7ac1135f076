/-!
# The civil calendar

Days are counted from the first of January 1970 in the proleptic Gregorian calendar. The count of
a date shifts the start of the year to March, so that the leap day comes last; 146097 days make a
cycle of four hundred years.
-/

namespace AdminPanel.Time

/-- A date by year, month and day. -/
structure Date where
  year : Int
  month : Nat
  day : Nat
  deriving Repr, DecidableEq, Inhabited

/-- Every fourth year but three in four hundred. -/
def isLeapYear (y : Int) : Bool :=
  y % 4 = 0 && (y % 100 ≠ 0 || y % 400 = 0)

def daysInMonth (y : Int) (m : Nat) : Nat :=
  if m = 2 then (if isLeapYear y then 29 else 28)
  else if m = 4 ∨ m = 6 ∨ m = 9 ∨ m = 11 then 30
  else 31

/-- A date that the calendar has. -/
def Date.IsValid (d : Date) : Prop :=
  1 ≤ d.month ∧ d.month ≤ 12 ∧ 1 ≤ d.day ∧ d.day ≤ daysInMonth d.year d.month

instance (d : Date) : Decidable d.IsValid :=
  inferInstanceAs (Decidable (_ ∧ _ ∧ _ ∧ _))

/-- Days from the start of the cycle year, which begins in March, to a month (March is 0). -/
def daysBeforeMonth (m : Nat) : Nat :=
  (153 * m + 2) / 5

/-- The number of a date's day. Years count from the cycle that they lie in, so that those before the first
come out right, too. -/
def Date.dayNumber (d : Date) : Int :=
  let y : Int := if d.month ≤ 2 then d.year - 1 else d.year
  let m : Nat := if d.month ≤ 2 then d.month + 9 else d.month - 3
  let cycle := y / 400
  let yearOfCycle := y % 400
  cycle * 146097
    + (yearOfCycle * 365 + yearOfCycle / 4 - yearOfCycle / 100 + daysBeforeMonth m + d.day - 1)
    - 719468

/-- The date of a day. -/
def Date.ofDayNumber (n : Int) : Date :=
  let z := n + 719468
  let cycle := z / 146097
  let dayOfCycle := (z % 146097).toNat
  -- leap days are taken out first: one in 1461 days, but for the last of a century and of the cycle
  let yearOfCycle :=
    (dayOfCycle - dayOfCycle / 1460 + dayOfCycle / 36524 - dayOfCycle / 146096) / 365
  let dayOfYear := dayOfCycle - (365 * yearOfCycle + yearOfCycle / 4 - yearOfCycle / 100)
  let m := (5 * dayOfYear + 2) / 153
  let month := if m < 10 then m + 3 else m - 9
  let y : Int := yearOfCycle + cycle * 400
  ⟨if month ≤ 2 then y + 1 else y, month, dayOfYear - daysBeforeMonth m + 1⟩

end AdminPanel.Time
