/-!
# Padding to a field

A word is set into a field of a table: cut to a number of characters if the field has a limit,
then filled up to the width of the field. Widths count characters.
-/

namespace AdminPanel.Text

/-- Where the word stands in its field. -/
inductive Align where
  | left
  | center
  | right
  deriving Repr, DecidableEq, Inhabited

/-- A field: the least width, the most characters of the word that are kept, and the filling. -/
structure Field where
  width : Nat := 0
  limit : Option Nat := none
  align : Align := .left
  fill : Char := ' '
  deriving Repr, DecidableEq, Inhabited

/-- The part of the word that the field keeps. -/
def Field.cut (f : Field) (cs : List Char) : List Char :=
  match f.limit with
  | none => cs
  | some n => cs.take n

/-- Sets a word into a field. A centred word leaves the odd place on its right. -/
def Field.setChars (f : Field) (cs : List Char) : List Char :=
  let word := f.cut cs
  let gap := f.width - word.length
  match f.align with
  | .left => word ++ List.replicate gap f.fill
  | .right => List.replicate gap f.fill ++ word
  | .center => List.replicate (gap / 2) f.fill ++ word ++ List.replicate (gap - gap / 2) f.fill

/-- A field is filled, and only a longer word makes it wider. -/
theorem Field.length_setChars (f : Field) (cs : List Char) :
    (f.setChars cs).length = max f.width (f.cut cs).length := by
  cases h : f.align <;> simp [setChars, h] <;> omega

/-- `Field.setChars` on strings. -/
def Field.set (f : Field) (s : String) : String :=
  String.ofList (f.setChars s.toList)

/-- The word at the left of a field of `width` places. -/
def padRight (width : Nat) (s : String) : String :=
  (Field.mk width none .left ' ').set s

/-- The word at the right of a field of `width` places. -/
def padLeft (width : Nat) (s : String) : String :=
  (Field.mk width none .right ' ').set s

end AdminPanel.Text
