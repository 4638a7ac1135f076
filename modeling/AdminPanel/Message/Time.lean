import AdminPanel.Wire.Layout
import AdminPanel.Time.Instant

/-!
# Times and durations

Points in time and lengths of time as they are sent: whole seconds and nanoseconds, neither of them
checked. `Timestamp.instant?` gives the instant, if the calendar has one.
-/

namespace AdminPanel.Message

open Wire (Layout)

/-- Seconds since the start of 1970, and nanoseconds. -/
structure Timestamp where
  seconds : Int64 := 0
  nanos : Int32 := 0
  deriving Repr, DecidableEq, Inhabited

def Timestamp.layout : Layout Timestamp :=
  .mk "Timestamp" {} <|
  .cons 1 "seconds" (.scalar .int64) (·.seconds) (fun v m => { m with seconds := v }) <|
  .cons 2 "nanos" (.scalar .int32) (·.nanos) (fun v m => { m with nanos := v }) <|
  .nil

/-- Seconds and nanoseconds. -/
structure Duration where
  seconds : Int64 := 0
  nanos : Int32 := 0
  deriving Repr, DecidableEq, Inhabited

def Duration.layout : Layout Duration :=
  .mk "Duration" {} <|
  .cons 1 "seconds" (.scalar .int64) (·.seconds) (fun v m => { m with seconds := v }) <|
  .cons 2 "nanos" (.scalar .int32) (·.nanos) (fun v m => { m with nanos := v }) <|
  .nil

/-- The instant that the stamp names, if there is one. The nanoseconds must not be negative, and reach a whole
second only where clocks show a leap second. -/
def Timestamp.instant? (t : Timestamp) : Option Time.Instant :=
  Time.Instant.ofParts? t.seconds.toInt t.nanos.toInt

/-- The stamp of an instant. Every instant has one: the calendar is far smaller than a word of 64 bits. -/
def Timestamp.ofInstant (t : Time.Instant) : Timestamp :=
  ⟨Int64.ofInt t.seconds, Int32.ofInt t.nanos⟩

/-- A length of time; seconds that do not fit a signed word wrap around. -/
def Duration.ofSeconds (seconds : UInt64) (nanos : UInt32) : Duration :=
  ⟨seconds.toInt64, nanos.toInt32⟩

end AdminPanel.Message
