import AdminPanel.Time.Instant

/-!
# Writing instants

The interchange form is that of RFC 3339 in universal time: as many digits of the fraction as are
needed, in groups of three. The reading form stops at the second. Years outside 0 to 9999 have a
sign and at least four digits.
-/

namespace AdminPanel.Time

/-- A number with leading zeros. -/
def zeroPadded (width n : Nat) : List Char :=
  let digits := Nat.toDigits 10 n
  List.replicate (width - digits.length) '0' ++ digits

/-- A year in four digits, with a sign if it needs one. -/
def yearText (y : Int) : List Char :=
  if 0 ≤ y ∧ y ≤ 9999 then zeroPadded 4 y.toNat
  else (if y < 0 then '-' else '+') :: zeroPadded 4 y.natAbs

/-- Year, month and day. -/
def Date.text (d : Date) : List Char :=
  yearText d.year ++ '-' :: zeroPadded 2 d.month ++ '-' :: zeroPadded 2 d.day

/-- Hour, minute and second. -/
def Instant.clockText (t : Instant) : List Char :=
  zeroPadded 2 (t.secondOfDay / 3600) ++ ':' :: zeroPadded 2 (t.secondOfDay / 60 % 60)
    ++ ':' :: zeroPadded 2 t.clockSecond

/-- The fraction in the fewest groups of three digits that are exact. -/
def fractionText (nanos : Nat) : List Char :=
  if nanos = 0 then []
  else if nanos % 1000000 = 0 then '.' :: zeroPadded 3 (nanos / 1000000)
  else if nanos % 1000 = 0 then '.' :: zeroPadded 6 (nanos / 1000)
  else '.' :: zeroPadded 9 nanos

/-- The interchange form. A leap second is written as the sixtieth. -/
def Instant.rfc3339 (t : Instant) : String :=
  String.ofList (t.date.text ++ 'T' :: t.clockText ++ fractionText t.clockNanos ++ ['Z'])

/-- The reading form, which leaves the fraction out. -/
def Instant.toText (t : Instant) : String :=
  String.ofList (t.date.text ++ ' ' :: t.clockText ++ [' ', 'U', 'T', 'C'])

/-- The reading form of a time that may be unknown. -/
def timeText : Option Instant → String
  | none => "-"
  | some t => t.toText

end AdminPanel.Time
