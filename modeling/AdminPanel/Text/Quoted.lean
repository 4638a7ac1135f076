import AdminPanel.Text.Unprintable
import AdminPanel.Text.Extending

/-!
# Quoted text

Texts that come from outside are put between double quotes in messages, so that nothing in them
can be taken for a part of the message: quotes and backslashes are escaped, and every character
that has no shape of its own, or that would attach itself to its neighbour, is written by number.
-/

namespace AdminPanel.Text

/-- Membership in a list of inclusive ranges. -/
def inRanges (ranges : List (Nat × Nat)) (n : Nat) : Bool :=
  ranges.any fun r => r.1 ≤ n && n ≤ r.2

/-- Whether quoted text writes the character by number. ASCII needs no table. -/
def isNumbered (c : Char) : Bool :=
  let n := c.toNat
  if n < 0x20 then true
  else if n < 0x7F then false
  else inRanges unprintableRanges n || inRanges extendingRanges n

/-- The character by number: `\u`, then its code point in lower-case hexadecimal in braces. -/
def numbered (c : Char) : List Char :=
  ['\\', 'u', '\x7b'] ++ Nat.toDigits 16 c.toNat ++ ['\x7d']

/-- A character inside quotes. -/
def escape (c : Char) : List Char :=
  match c with
  | '\x00' => ['\\', '0']
  | '\t' => ['\\', 't']
  | '\r' => ['\\', 'r']
  | '\n' => ['\\', 'n']
  | '\\' => ['\\', '\\']
  | '"' => ['\\', '"']
  | c => if isNumbered c then numbered c else [c]

/-- The text between double quotes, each character escaped. -/
def quoteChars (cs : List Char) : List Char :=
  '"' :: cs.flatMap escape ++ ['"']

/-- `quoteChars` on strings. -/
def quoted (s : String) : String :=
  String.ofList (quoteChars s.toList)

end AdminPanel.Text
