import AdminPanel.Decimal.Binary64

/-!
# The fewest digits that read back

Every finite number is the nearest one to a whole interval of reals. Among the decimals in that
interval those with the fewest digits are kept, and of these the nearest to the number. The search
tries one digit, two, and so on: if any decimal with that many digits lies in the interval, one of
the number's two neighbours on that decimal grid does. Where both are equally near, a `Tie` decides.
-/

namespace AdminPanel.Decimal

/-- A decimal `digits · 10 ^ scale`. -/
structure Scientific where
  digits : Nat
  scale : Int
  deriving Repr, DecidableEq, Inhabited

def Scientific.text (s : Scientific) : List Char :=
  Nat.toDigits 10 s.digits

/-- The power of ten of the leading digit. -/
def Scientific.leading (s : Scientific) : Int :=
  s.scale + (s.text.length : Int) - 1

/-- `num · 10 ^ k` against the denominator that `k` leaves: the quotient times a power of ten. -/
def timesTenPow (q : Nat × Nat) (k : Int) : Nat × Nat :=
  if 0 ≤ k then (q.1 * Nat.pow 10 k.toNat, q.2) else (q.1, q.2 * Nat.pow 10 (-k).toNat)

/-- The interval of reals that round to `m · 2 ^ e`, as its two ends over a common denominator.
Below a power of two the numbers lie twice as close. -/
def roundingInterval (x : Binary64) : Nat × Nat × Nat :=
  let m := x.significand
  let low := if x.fraction = 0 ∧ 1 < x.biasedExponent then 4 * m - 1 else 4 * m - 2
  let e := x.exponent - 2
  if 0 ≤ e then (low * Nat.pow 2 e.toNat, (4 * m + 2) * Nat.pow 2 e.toNat, 1)
  else (low, 4 * m + 2, Nat.pow 2 (-e).toNat)

/-- Whether the whole number `d`, as `d · 10 ^ (-k)`, rounds to `x`. An end of the interval rounds
to `x` when the significand is even. -/
def readsBack (x : Binary64) (k : Int) (d : Nat) : Bool :=
  let (low, high, den) := roundingInterval x
  let (lowNum, lowDen) := timesTenPow (low, den) k
  let (highNum, highDen) := timesTenPow (high, den) k
  if x.significand % 2 = 0 then lowNum ≤ d * lowDen && d * highDen ≤ highNum
  else lowNum < d * lowDen && d * highDen < highNum

/-- Which neighbour a magnitude halfway between two of a grid goes to. -/
inductive Tie where
  /-- The one with an even last digit. -/
  | toEven
  /-- The larger one. -/
  | up
  deriving Repr, DecidableEq

/-- Whether a tie goes to the lower neighbour, `below` steps of the grid from zero. -/
def Tie.goesBelow (t : Tie) (below : Nat) : Bool :=
  match t with
  | .toEven => below % 2 == 0
  | .up => false

/-- The better of the two neighbours of `x` on the grid of multiples of `10 ^ (-k)`, if either
reads back. -/
def onGrid (t : Tie) (x : Binary64) (k : Int) : Option Scientific :=
  let (num, den) := timesTenPow x.ratio k
  let below := num / den
  let rest := num % den
  let nearBelow := 2 * rest < den || (2 * rest == den && t.goesBelow below)
  let first := if nearBelow then below else below + 1
  let second := if nearBelow then below + 1 else below
  if 0 < first && readsBack x k first then some ⟨first, -k⟩
  else if 0 < second && readsBack x k second then some ⟨second, -k⟩
  else none

/-- The first grid with a hit, from `k` on, trying `fuel` grids. -/
def firstHit (t : Tie) (x : Binary64) (k : Int) : Nat → Scientific
  | 0 => ⟨x.ratio.1, 0⟩
  | fuel + 1 =>
    match onGrid t x k with
    | some s => s
    | none => firstHit t x (k + 1) fuel

/-- Drops trailing zeros of the digits, at most `fuel`. -/
def Scientific.strip (s : Scientific) : Nat → Scientific
  | 0 => s
  | fuel + 1 =>
    if s.digits % 10 = 0 ∧ s.digits ≠ 0 then
      (Scientific.mk (s.digits / 10) (s.scale + 1)).strip fuel
    else s

/-- The power of ten of the leading digit of a positive quotient. -/
def leadingPower (q : Nat × Nat) : Int :=
  if q.2 ≤ q.1 then ((Nat.toDigits 10 (q.1 / q.2)).length : Int) - 1
  else
    let zeros := (Nat.toDigits 10 (q.2 / q.1)).length
    if q.2 ≤ q.1 * Nat.pow 10 (zeros - 1) then 1 - (zeros : Int) else -(zeros : Int)

/-- The shortest decimal of a finite number other than zero. -/
def shortest (t : Tie) (x : Binary64) : Scientific :=
  (firstHit t x (-(leadingPower x.ratio) - 1) 20).strip 20

end AdminPanel.Decimal
