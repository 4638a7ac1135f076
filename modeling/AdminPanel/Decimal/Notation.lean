import AdminPanel.Decimal.Shortest

/-!
# Writing numbers

A `Style` lists the decisions of a format for shortest decimals: where positional notation ends,
how exponents are written, and where a tie goes. `fixedPlaces` writes a given number of places after
the point.
-/

namespace AdminPanel.Decimal

/-- How a shortest decimal is written. -/
structure Style where
  /-- The smallest power of ten of a leading digit that is written positionally. -/
  lowest : Int
  /-- The largest such power. -/
  highest : Int
  /-- Whether a positive exponent has a sign. -/
  plusSign : Bool
  /-- Which of two equally near decimals is written. -/
  tie : Tie
  deriving Repr, DecidableEq

def Style.exponentText (st : Style) (e : Int) : List Char :=
  let sign := if e < 0 then ['-'] else if st.plusSign then ['+'] else []
  'e' :: sign ++ Nat.toDigits 10 e.natAbs

/-- A decimal with its point in place, and with at least one digit on each side of it. -/
def positional (s : Scientific) : List Char :=
  let digits := s.text
  let point := s.leading + 1
  if 0 ≤ s.scale then digits ++ List.replicate s.scale.toNat '0' ++ ['.', '0']
  else if 0 < point then digits.take point.toNat ++ '.' :: digits.drop point.toNat
  else ['0', '.'] ++ List.replicate (-point).toNat '0' ++ digits

/-- A decimal as one digit, the other digits after a point, and the exponent. -/
def Style.scientific (st : Style) (s : Scientific) : List Char :=
  let mantissa :=
    match s.text with
    | [] => []
    | [d] => [d]
    | d :: ds => d :: '.' :: ds
  mantissa ++ st.exponentText s.leading

/-- The magnitude of a finite number. -/
def Style.magnitude (st : Style) (x : Binary64) : List Char :=
  if x.isZero then ['0', '.', '0']
  else
    let s := shortest st.tie x
    if st.lowest ≤ s.leading ∧ s.leading ≤ st.highest then positional s else st.scientific s

/-- A finite number with its sign; zero keeps its own. -/
def Style.finite (st : Style) (x : Binary64) : List Char :=
  if x.isNegative then '-' :: st.magnitude x else st.magnitude x

/-- The texts of the numbers that are not finite. -/
def nonFinite (x : Binary64) : List Char :=
  if x.isNaN then ['N', 'a', 'N']
  else if x.isNegative then ['-', 'i', 'n', 'f'] else ['i', 'n', 'f']

/-- Any number, in the given style. -/
def Style.write (st : Style) (x : Binary64) : String :=
  String.ofList (if x.isFinite then st.finite x else nonFinite x)

/-- Numbers in listings of a message's fields: positional from `10 ^ (-4)` to below `10 ^ 16`; of
two equally near decimals the larger. -/
def listing : Style := ⟨-4, 15, false, .up⟩

/-- A magnitude, in units of the last of `places` places, with the point in place. -/
def placePoint (places units : Nat) : List Char :=
  let digits := Nat.toDigits 10 units
  let padded := List.replicate (places + 1 - digits.length) '0' ++ digits
  let whole := padded.length - places
  if places = 0 then padded else padded.take whole ++ '.' :: padded.drop whole

/-- A number with a fixed count of places after the point. The exact value is rounded, a half going
to the even neighbour, and the sign is kept even if nothing but zeros remain. -/
def fixedPlaces (places : Nat) (x : Binary64) : String :=
  if x.isFinite then
    let units := roundDiv (x.ratio.1 * Nat.pow 10 places) x.ratio.2
    let text := placePoint places units
    String.ofList (if x.isNegative then '-' :: text else text)
  else if x.isNaN then "NaN"
  else String.ofList (nonFinite x)

end AdminPanel.Decimal
