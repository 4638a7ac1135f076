import AdminPanel.Time.Civil

/-!
# Instants

An instant is a second since the start of 1970 (universal time) and the nanoseconds into it. In
the last second of a minute the nanoseconds may run on for another second: a leap second. The
calendar that instants are written in ends at the years -262143 and 262142.
-/

namespace AdminPanel.Time

def nanosPerSecond : Nat := 1000000000

/-- The first second of the calendar. -/
def firstSecond : Int := Date.dayNumber ⟨-262143, 1, 1⟩ * 86400

/-- The last second of the calendar. -/
def lastSecond : Int := Date.dayNumber ⟨262142, 12, 31⟩ * 86400 + 86399

/-- Seconds within the calendar, and nanoseconds within the second or its leap second. -/
def IsInstant (seconds : Int) (nanos : Nat) : Prop :=
  (firstSecond ≤ seconds ∧ seconds ≤ lastSecond)
    ∧ (nanos < nanosPerSecond ∨ (nanos < 2 * nanosPerSecond ∧ seconds % 60 = 59))

instance (seconds : Int) (nanos : Nat) : Decidable (IsInstant seconds nanos) :=
  inferInstanceAs (Decidable ((_ ∧ _) ∧ (_ ∨ (_ ∧ _))))

/-- A point in time that the calendar has. -/
structure Instant where
  seconds : Int
  nanos : Nat
  valid : IsInstant seconds nanos
  deriving DecidableEq

namespace Instant

def epoch : Instant := ⟨0, 0, by decide⟩

instance : Inhabited Instant := ⟨epoch⟩

/-- The instant of a count of seconds and nanoseconds, if there is one. -/
def ofParts? (seconds : Int) (nanos : Int) : Option Instant :=
  if 0 ≤ nanos then
    if h : IsInstant seconds nanos.toNat then some ⟨seconds, nanos.toNat, h⟩ else none
  else none

def date (t : Instant) : Date :=
  .ofDayNumber (t.seconds / 86400)

def secondOfDay (t : Instant) : Nat :=
  (t.seconds % 86400).toNat

/-- Whether the instant lies in a leap second. -/
def isLeap (t : Instant) : Bool :=
  nanosPerSecond ≤ t.nanos

/-- The second of the minute as clocks show it: sixty in a leap second. -/
def clockSecond (t : Instant) : Nat :=
  t.secondOfDay % 60 + if t.isLeap then 1 else 0

/-- The nanoseconds into the second that clocks show. -/
def clockNanos (t : Instant) : Nat :=
  if t.isLeap then t.nanos - nanosPerSecond else t.nanos

end Instant

end AdminPanel.Time
