/-!
# Blank characters and trimming

Blank characters are those with the property `White_Space`. Trimming drops them at both ends of a
text; it never touches a zero-width space or a byte-order mark, which are not blank.
-/

namespace AdminPanel.Text

/-- Membership in the property `White_Space`. -/
def isBlank (c : Char) : Bool :=
  let n := c.toNat
  (0x09 ≤ n && n ≤ 0x0D) || n == 0x20 || n == 0x85 || n == 0xA0 || n == 0x1680
    || (0x2000 ≤ n && n ≤ 0x200A) || n == 0x2028 || n == 0x2029 || n == 0x202F || n == 0x205F
    || n == 0x3000

/-- Drops the leading characters that satisfy `p`. -/
def trimStartOf (p : Char → Bool) (cs : List Char) : List Char :=
  cs.dropWhile p

/-- Drops the trailing characters that satisfy `p`. A character stays as soon as anything stays behind it. -/
def trimEndOf (p : Char → Bool) : List Char → List Char
  | [] => []
  | c :: cs =>
    match trimEndOf p cs with
    | [] => if p c then [] else [c]
    | d :: ds => c :: d :: ds

/-- Drops blanks at both ends. -/
def trimChars (cs : List Char) : List Char :=
  trimEndOf isBlank (trimStartOf isBlank cs)

/-- `trimChars` on strings. -/
def trim (s : String) : String :=
  String.ofList (trimChars s.toList)

/-- A text that holds blanks alone. -/
def isAllBlank (s : String) : Bool :=
  s.toList.all isBlank

/-- ASCII letters in lower case; all other characters as they are. -/
def lowerAscii (s : String) : String :=
  String.ofList (s.toList.map Char.toLower)

end AdminPanel.Text
