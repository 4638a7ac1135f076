/-!
# Binary floating-point numbers of 64 bits

A number is held by its bits. This module reads the bits as `± m · 2 ^ e`, and rounds a quotient of
natural numbers to the nearest number, ties going to the even neighbour. All arithmetic is exact,
on natural numbers.
-/

namespace AdminPanel.Decimal

/-- A binary64 number by its bits: sign, eleven bits of exponent, fifty-two of fraction. -/
structure Binary64 where
  bits : UInt64
  deriving Repr, DecidableEq, Inhabited

namespace Binary64

/-- The sign bit. -/
def isNegative (x : Binary64) : Bool :=
  x.bits.toNat / 0x8000000000000000 == 1

/-- The eleven bits of exponent. -/
def biasedExponent (x : Binary64) : Nat :=
  x.bits.toNat / 0x10000000000000 % 0x800

/-- The fifty-two bits of fraction. -/
def fraction (x : Binary64) : Nat :=
  x.bits.toNat % 0x10000000000000

/-- Neither an infinity nor a NaN. -/
def isFinite (x : Binary64) : Bool :=
  x.biasedExponent != 2047

/-- All exponent bits set, and a fraction. -/
def isNaN (x : Binary64) : Bool :=
  x.biasedExponent == 2047 && x.fraction != 0

/-- Either zero; the sign does not count. -/
def isZero (x : Binary64) : Bool :=
  x.bits.toNat % 0x8000000000000000 == 0

/-- The `m` of `m · 2 ^ e`: the fraction, with the leading bit of a normal number. -/
def significand (x : Binary64) : Nat :=
  if x.biasedExponent = 0 then x.fraction else 0x10000000000000 + x.fraction

/-- The `e` of `m · 2 ^ e`. Subnormal numbers share the exponent of the smallest normal ones. -/
def exponent (x : Binary64) : Int :=
  if x.biasedExponent = 0 then -1074 else (x.biasedExponent : Int) - 1075

/-- The magnitude of a finite number as a quotient of natural numbers. -/
def ratio (x : Binary64) : Nat × Nat :=
  if 0 ≤ x.exponent then (x.significand * Nat.pow 2 x.exponent.toNat, 1)
  else (x.significand, Nat.pow 2 (-x.exponent).toNat)

def zero : Binary64 := ⟨0⟩

/-- The opposite sign. -/
def negate (x : Binary64) : Binary64 :=
  ⟨x.bits ^^^ ((1 : UInt64) <<< 63)⟩

end Binary64

/-- The quotient `num / den` to the nearest whole number, a half going to the even one. -/
def roundDiv (num den : Nat) : Nat :=
  let q := num / den
  let r := num % den
  if 2 * r < den then q
  else if den < 2 * r then q + 1
  else if q % 2 = 0 then q else q + 1

/-- `roundDiv` of `num / den / 2 ^ e`. -/
def roundDivPow (num den : Nat) (e : Int) : Nat :=
  if 0 ≤ e then roundDiv num (den * Nat.pow 2 e.toNat)
  else roundDiv (num * Nat.pow 2 (-e).toNat) den

namespace Binary64

/-- The bits of an infinity without its sign. -/
def infinityBits : Nat := 0x7FF0000000000000

/-- The binary exponent that puts `num / den` between `2 ^ 52` and `2 ^ 53`, or that of the
subnormal numbers if it is larger. -/
def exponentFor (num den : Nat) : Int :=
  let low : Int := (Nat.log2 num : Int) - (Nat.log2 den : Int) - 53
  let fits (e : Int) : Bool :=
    if 0 ≤ e then num < den * Nat.pow 2 e.toNat * 0x20000000000000
    else num * Nat.pow 2 (-e).toNat < den * 0x20000000000000
  max (if fits low then low else low + 1) (-1074)

/-- The magnitude bits of the number nearest to `num / den`; infinity from halfway beyond the
largest finite number on. A significand that rounds up to `2 ^ 53` carries into the exponent. -/
def magnitudeBits (num den : Nat) : Nat :=
  if num = 0 then 0
  else
    let e := exponentFor num den
    min ((e + 1074).toNat * 0x10000000000000 + roundDivPow num den e) infinityBits

def nearest (negative : Bool) (num den : Nat) : Binary64 :=
  ⟨UInt64.ofNat (magnitudeBits num den + if negative then 0x8000000000000000 else 0)⟩

/-- The product of a finite number with `num / den`, rounded once. -/
def scale (x : Binary64) (num den : Nat) : Binary64 :=
  nearest x.isNegative (x.ratio.1 * num) (x.ratio.2 * den)

end Binary64

end AdminPanel.Decimal
