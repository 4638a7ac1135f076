import AdminPanel.Json.Cursor

/-!
# Reading numbers

A whole number that fits 64 bits is exact. Any other number is the product or quotient of a
64-bit significand with a power of ten, rounded once for each of the two: digits that no longer
fit the significand count as zeros before the point and are dropped after it, so long numbers may
be off in the last place.
-/

namespace AdminPanel.Json

open Decimal (Binary64)

/-- The significand's limit: one more than the largest 64-bit word. -/
def significandLimit : Nat := 0x10000000000000000

def digitValue (c : Char) : Nat := c.toNat - '0'.toNat

/-- The power of ten, rounded as any number. -/
def tenPow (n : Nat) : Binary64 := .nearest false (Nat.pow 10 n) 1

/-- Multiplies or divides a number by the power of ten. The tables end at `10 ^ 308`: a smaller
number is divided in steps, a larger one is out of range. -/
def scaleTen (x : Binary64) (exponent : Int) : Nat → Option Binary64
  | 0 => some x
  | fuel + 1 =>
    if exponent.natAbs ≤ 308 then
      if 0 ≤ exponent then
        let y := x.scale (tenPow exponent.natAbs).ratio.1 (tenPow exponent.natAbs).ratio.2
        if y.isFinite then some y else none
      else
        some (x.scale (tenPow exponent.natAbs).ratio.2 (tenPow exponent.natAbs).ratio.1)
    else if x.isZero then some x
    else if 0 ≤ exponent then none
    else
      scaleTen (x.scale (tenPow 308).ratio.2 (tenPow 308).ratio.1) (exponent + 308) fuel

/-- The number `± significand · 10 ^ exponent`. Three steps of division leave nothing of any
significand. -/
def ofParts (positive : Bool) (significand : Nat) (exponent : Int) : Option Binary64 :=
  (scaleTen (.nearest false significand 1) exponent 4).map fun x =>
    if positive then x else x.negate

/-- The number of a whole significand without point or exponent. A negative zero, and a negative
number below the smallest 64-bit word, are not exact. -/
def Number.whole (positive : Bool) (significand : Nat) : Number :=
  if positive then .integer significand
  else if significand = 0 ∨ 0x8000000000000000 < significand then
    .real (Binary64.nearest false significand 1).negate
  else .integer (-(significand : Int))

namespace Reader

def digits : Reader (List Char) := fun c =>
  .ok (c.rest.takeWhile Char.isDigit, dropWhile Char.isDigit c.position c.rest)

/-- The number of its parts, or a fault at the cursor. -/
def parts (positive : Bool) (significand : Nat) (exponent : Int) : Reader Number :=
  match ofParts positive significand exponent with
  | some x => pure (.real x)
  | none => fail .numberOutOfRange

/-- The largest exponent that is counted. -/
def exponentLimit : Nat := 0x80000000

/-- The digits of an exponent, added to what is there; `none` as soon as they exceed the limit. -/
def exponentDigits (value : Nat) : Nat → Reader (Option Nat)
  | 0 => pure (some value)
  | fuel + 1 => do
    match ← peek with
    | some c =>
      if c.isDigit then
        skip
        let next := value * 10 + digitValue c
        if exponentLimit ≤ next then pure none else exponentDigits next fuel
      else pure (some value)
    | none => pure (some value)

/-- Keeps an exponent within 32 bits. -/
def clampExponent (e : Int) : Int :=
  max (-0x80000000) (min e 0x7FFFFFFF)

/-- The exponent at the cursor, which stands on its letter. An exponent beyond all limits gives
zero if it is negative or nothing but zeros are scaled. -/
def exponentPart (positive : Bool) (significand : Nat) (start : Int) : Reader Number := do
  skip
  let sign ← peek
  let positiveExponent := sign != some '-'
  if sign == some '+' || sign == some '-' then skip
  match ← peek with
  | none => fail .endInValue
  | some c =>
    if !c.isDigit then failNext .invalidNumber
    else
      skip
      match ← exponentDigits (digitValue c) (← remaining) with
      | some e =>
        parts positive significand
          (clampExponent (if positiveExponent then start + e else start - e))
      | none =>
        if significand ≠ 0 ∧ positiveExponent then fail .numberOutOfRange
        else
          let _ ← digits
          pure (.real (if positive then .zero else Binary64.zero.negate))

/-- Takes digits into the significand while it holds them. -/
def takeDigits (significand : Nat) : List Char → Nat × Nat × List Char
  | [] => (significand, 0, [])
  | c :: cs =>
    let next := significand * 10 + digitValue c
    if next < significandLimit then
      let (s, n, rest) := takeDigits next cs
      (s, n + 1, rest)
    else (significand, 0, c :: cs)

/-- An exponent, if its letter is next, or the number as it stands. -/
def exponentOrEnd (positive : Bool) (significand : Nat) (exponent : Int) : Reader Number := do
  match ← peek with
  | some 'e' | some 'E' => exponentPart positive significand exponent
  | _ => parts positive significand exponent

/-- The fraction at the cursor, which stands on the point. -/
def fractionPart (positive : Bool) (significand : Nat) (exponent : Int) : Reader Number := do
  skip
  match ← digits with
  | [] =>
    match ← peek with
    | some _ => failNext .invalidNumber
    | none => failNext .endInValue
  | ds =>
    let (s, taken, _) := takeDigits significand ds
    exponentOrEnd positive s (exponent - taken)

/-- The number whose sign, if any, is consumed. -/
def number (positive : Bool) : Reader Number := do
  match ← peek with
  | none => fail .endInValue
  | some c =>
    if !c.isDigit then failNext .invalidNumber
    else
      -- a zero in front is the whole of the digits, and no other may follow it
      let ds ← (if c = '0' then do skip; pure ['0'] else digits)
      if c = '0' then
        if let some d ← peek then
          if d.isDigit then failNext .invalidNumber
      let (s, _, dropped) := takeDigits 0 ds
      match ← peek with
      | some '.' => fractionPart positive s dropped.length
      | some 'e' | some 'E' => exponentPart positive s dropped.length
      | _ =>
        if dropped.isEmpty then pure (Number.whole positive s)
        else parts positive s dropped.length

end Reader

end AdminPanel.Json
