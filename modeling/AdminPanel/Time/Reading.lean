import AdminPanel.Time.Instant
import AdminPanel.Text.Blank

/-!
# Reading instants

A date, one of `T`, `t` or a space, a time of day, and a zone: `Z`, `UTC` or an offset. The reader
takes more than the writer writes: blanks around the parts, single digits, any number of digits of
a signed year or of a fraction, and colons or blanks inside an offset.
-/

namespace AdminPanel.Time

open Text (isBlank)

/-- Why a text is no instant. -/
inductive DateFault where
  | outOfRange
  | impossible
  | invalid
  | tooShort
  | tooLong
  deriving Repr, DecidableEq

def DateFault.message : DateFault → String
  | .outOfRange => "input is out of range"
  | .impossible => "no possible date and time matching input"
  | .invalid => "input contains invalid characters"
  | .tooShort => "premature end of input"
  | .tooLong => "trailing input"

/-- A date reader takes characters from the front. -/
abbrev DateReader := StateT (List Char) (Except DateFault)

namespace DateReader

def fail (e : DateFault) : DateReader α := fun _ => .error e

/-- Drops characters while they satisfy `p`. -/
def dropWhile (p : Char → Bool) : DateReader Unit := fun cs => .ok ((), cs.dropWhile p)

/-- The next character, which stays. -/
def peek : DateReader (Option Char) := fun cs => .ok (cs.head?, cs)

/-- Drops one character. -/
def skip : DateReader Unit := fun cs => .ok ((), cs.tail)

/-- A character that must be next. -/
def literal (want : Char) : DateReader Unit := do
  match ← peek with
  | none => fail .tooShort
  | some c => if c = want then skip else fail .invalid

/-- The number that decimal digits write. -/
def decimal (ds : List Char) : Nat :=
  ds.foldl (fun n c => n * 10 + (c.toNat - '0'.toNat)) 0

/-- The largest number that is counted. -/
def numberLimit : Nat := 0x8000000000000000

/-- One to `most` digits (any number of them if `most` is `none`), and how many there were. -/
def number (most : Option Nat) : DateReader (Nat × Nat) := fun cs =>
  let run := cs.takeWhile Char.isDigit
  let ds := match most with
    | none => run
    | some n => run.take n
  if cs.isEmpty then .error .tooShort
  else if ds.isEmpty then .error .invalid
  else if numberLimit ≤ decimal ds then .error .outOfRange
  else .ok ((decimal ds, ds.length), cs.drop ds.length)

/-- A number of one or two digits between two bounds, after blanks. -/
def bounded (low high : Nat) : DateReader Nat := do
  dropWhile isBlank
  let (n, _) ← number (some 2)
  if low ≤ n ∧ n ≤ high then pure n else fail .outOfRange

/-- A year: four digits at most, or a sign and any number of them. -/
def year : DateReader Int := do
  dropWhile isBlank
  let y : Int ← (do
    match ← peek with
    | some '-' => do
      skip
      let (n, _) ← number none
      pure (-(n : Int))
    | some '+' => do
      skip
      let (n, _) ← number none
      pure (n : Int)
    | _ => do
      let (n, _) ← number (some 4)
      pure (n : Int))
  if -0x80000000 ≤ y ∧ y < 0x80000000 then pure y else fail .outOfRange

/-- A separator with blanks in front. -/
def separator (c : Char) : DateReader Unit := do
  dropWhile isBlank
  literal c

/-- Year, month and day. -/
def date : DateReader Date := do
  let y ← year
  separator '-'
  let m ← bounded 1 12
  separator '-'
  let d ← bounded 1 31
  pure ⟨y, m, d⟩

/-- The nanoseconds of a fraction, if a point is next. Digits beyond the ninth do not count. -/
def fraction : DateReader Nat := do
  match ← peek with
  | some '.' => do
    skip
    let (n, count) ← number (some 9)
    dropWhile Char.isDigit
    pure (n * Nat.pow 10 (9 - count))
  | _ => pure 0

/-- The second of the day and the nanoseconds. A sixtieth second belongs to the one before. -/
def clock : DateReader (Nat × Nat) := do
  let h ← bounded 0 23
  separator ':'
  let m ← bounded 0 59
  separator ':'
  let s ← bounded 0 60
  let nanos ← fraction
  dropWhile isBlank
  if s = 60 then pure (h * 3600 + m * 60 + 59, nanosPerSecond + nanos)
  else pure (h * 3600 + m * 60 + s, nanos)

/-- Two digits. A single byte is too short, whatever it is; a single longer character is not. -/
def twoDigits : DateReader (Nat × Nat)
  | [] => .error .tooShort
  | [a] => .error (if a.utf8Size = 1 then .tooShort else .invalid)
  | a :: b :: rest =>
    if a.isDigit && b.isDigit then .ok ((a.toNat - '0'.toNat, b.toNat - '0'.toNat), rest)
    else .error .invalid

/-- Hours and minutes of an offset, in seconds. -/
def offsetSize : DateReader Nat := do
  let (h₁, h₂) ← twoDigits
  dropWhile fun c => c == ':' || isBlank c
  let (m₁, m₂) ← twoDigits
  if 5 < m₁ then fail .outOfRange
  else pure ((h₁ * 10 + h₂) * 3600 + (m₁ * 10 + m₂) * 60)

/-- The zone, as seconds east of universal time. -/
def zone : DateReader Int := fun cs =>
  if (cs.take 3).map Char.toUpper = ['U', 'T', 'C'] then .ok (0, cs.drop 3)
  else
    (do
      match ← peek with
      | none => fail .tooShort
      | some 'Z' | some 'z' => do skip; pure 0
      | some '+' => do skip; return Int.ofNat (← offsetSize)
      | some '-' | some '\u2212' => do skip; return -Int.ofNat (← offsetSize)
      | some _ => fail .invalid) cs

/-- The whole form, and the instant it names. Each part is checked as it is read; whether the calendar has the
date, and whether the offset is less than a day, is asked when all has been read. -/
def instant : DateReader Instant := do
  let d ← date
  match ← peek with
  | none => fail .tooShort
  | some 'T' | some 't' | some ' ' => skip
  | some _ => fail .invalid
  let (second, nanos) ← clock
  let offset ← zone
  dropWhile isBlank
  if (← peek).isSome then fail .tooLong
  if ¬ (d.IsValid ∧ -262143 ≤ d.year ∧ d.year ≤ 262142) then fail .outOfRange
  if 86400 ≤ offset.natAbs then fail .outOfRange
  match Instant.ofParts? (d.dayNumber * 86400 + second - offset) nanos with
  | some t => pure t
  | none => fail .impossible

end DateReader

/-- Reads an instant. -/
def Instant.read (s : String) : Except DateFault Instant :=
  match DateReader.instant s.toList with
  | .ok (t, _) => .ok t
  | .error e => .error e

end AdminPanel.Time
