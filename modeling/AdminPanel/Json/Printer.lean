import AdminPanel.Json.Value
import AdminPanel.Decimal.Notation

/-!
# Printing documents

Lists and objects spread over lines, two spaces to a level; empty ones stay on theirs. In strings
the quote, the backslash and the control characters are escaped, everything else is itself.
-/

namespace AdminPanel.Json

open Decimal (Style)

/-- Numbers in documents: positional from `10 ^ (-5)` to below `10 ^ 16`; exponents always have a
sign; of two equally near decimals the even one. -/
def realStyle : Style := ⟨-5, 15, true, .toEven⟩

def Number.print : Number → String
  | .integer i => toString i
  | .real x => if x.isFinite then realStyle.write x else "null"

/-- A hexadecimal digit in lower case. -/
def hexDigit (n : Nat) : Char :=
  Nat.digitChar n

/-- A character inside a string. -/
def escapeChar (c : Char) : List Char :=
  match c with
  | '"' => ['\\', '"']
  | '\\' => ['\\', '\\']
  | '\x08' => ['\\', 'b']
  | '\x0c' => ['\\', 'f']
  | '\n' => ['\\', 'n']
  | '\r' => ['\\', 'r']
  | '\t' => ['\\', 't']
  | c =>
    if c.toNat < 0x20 then ['\\', 'u', '0', '0', hexDigit (c.toNat / 16), hexDigit (c.toNat % 16)]
    else [c]

/-- A string in its quotes, as characters. -/
def stringChars (cs : List Char) : List Char :=
  '"' :: cs.flatMap escapeChar ++ ['"']

def lineBreak (level : Nat) : List Char :=
  '\n' :: List.replicate (2 * level) ' '

/-- Puts the texts of the parts between brackets, one to a line. -/
def bracketed (opening closing : Char) (level : Nat) : List (List Char) → List Char
  | [] => [opening, closing]
  | part :: parts =>
    opening :: lineBreak (level + 1) ++ part
      ++ parts.flatMap (fun p => ',' :: lineBreak (level + 1) ++ p)
      ++ lineBreak level ++ [closing]

mutual

/-- The text of a value that starts at a level. -/
def Value.printChars (level : Nat) : Value → List Char
  | .null => ['n', 'u', 'l', 'l']
  | .bool true => ['t', 'r', 'u', 'e']
  | .bool false => ['f', 'a', 'l', 's', 'e']
  | .number n => n.print.toList
  | .string s => stringChars s.toList
  | .array items => bracketed '[' ']' level (printItems (level + 1) items)
  | .object members => bracketed '\x7b' '\x7d' level (printMembers (level + 1) members)

def printItems (level : Nat) : List Value → List (List Char)
  | [] => []
  | v :: vs => v.printChars level :: printItems level vs

/-- The texts of the members of an object. -/
def printMembers (level : Nat) : List (String × Value) → List (List Char)
  | [] => []
  | (name, v) :: rest =>
    (stringChars name.toList ++ [':', ' '] ++ v.printChars level) :: printMembers level rest

end

/-- The document that holds the value. -/
def Value.print (v : Value) : String :=
  String.ofList (v.printChars 0)

end AdminPanel.Json
