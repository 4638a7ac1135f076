/-!
# Text without terminal control

A text that came from outside is shown without what would move a terminal: escape sequences are
dropped whole, and so is every control character that is not a blank. A blank inside a sequence
breaks the sequence off; a character beyond ASCII there is dropped and changes nothing.

Some sequences open a string, which is dropped with them. Its end is one byte, `0x9C`, and a
terminal looks for it in the bytes of the text: a character whose encoding holds that byte ends
the string as well.
-/

namespace AdminPanel.Text

/-- Where a terminal stands within an escape sequence. -/
inductive Control where
  | ground
  | escape
  | intermediate
  | sequence
  /-- A string that only a bell or another sequence ends. -/
  | bellString
  /-- A string that the terminator or another sequence ends. -/
  | string
  /-- In front of the header of a device's string. -/
  | deviceStart
  /-- Among the parameters in such a header. -/
  | deviceParameters
  /-- Behind the parameters in such a header. -/
  | deviceIntermediate
  deriving Repr, DecidableEq

def isShownControl (c : Char) : Bool :=
  c == '\t' || c == '\n' || c == '\x0C' || c == '\r'

/-- A control character that ends any sequence. -/
def cancels (c : Char) : Bool := c == '\x18' || c == '\x1A'

/-- A character of ASCII that is no control character: sequences are made of these. -/
def isPlainAscii (c : Char) : Bool := 0x20 ≤ c.toNat && c.toNat ≤ 0x7E

/-- Whether the encoding of a character holds the byte that ends a string. -/
def holdsTerminator (c : Char) : Bool := (String.utf8EncodeChar c).contains 0x9C

namespace Control

/-- The state after a plain character of ASCII within a sequence. Strings and the ground stay. -/
def next (s : Control) (c : Char) : Control :=
  let n := c.toNat
  match s with
  | .escape =>
    if n ≤ 0x2F then .intermediate
    else if c = '[' then .sequence
    else if c = ']' then .bellString
    else if c = 'P' then .deviceStart
    else if c = 'X' ∨ c = '^' ∨ c = '_' then .string
    else .ground
  | .intermediate => if n ≤ 0x2F then .intermediate else .ground
  | .sequence => if n ≤ 0x3F then .sequence else .ground
  | .deviceStart =>
    if n ≤ 0x2F then .deviceIntermediate
    else if n ≤ 0x3F then .deviceParameters
    else .string
  | .deviceParameters =>
    if n ≤ 0x2F then .deviceIntermediate
    else if n ≤ 0x3B then .deviceParameters
    else .string
  | .deviceIntermediate => if n ≤ 0x2F then .deviceIntermediate else .string
  | .ground | .bellString | .string => s

/-- The state after a character, and whether the character is shown. -/
def step (s : Control) (c : Char) : Control × Bool :=
  if c = '\x1B' then (.escape, false)
  else if cancels c then (.ground, false)
  else
    match s with
    | .ground => (.ground, isShownControl c || (0x20 ≤ c.toNat && c != '\x7F'))
    | .bellString => (if c = '\x07' then .ground else .bellString, false)
    | .string => (if holdsTerminator c then .ground else .string, false)
    | .deviceStart | .deviceParameters | .deviceIntermediate =>
      (if isPlainAscii c then s.next c else s, false)
    | .escape | .intermediate | .sequence =>
      if isShownControl c then (.ground, true)
      else (if isPlainAscii c then s.next c else s, false)

end Control

/-- The characters that are shown, when a terminal stands at `s`. -/
def plainFrom (s : Control) : List Char → List Char
  | [] => []
  | c :: cs =>
    let (s, shown) := s.step c
    if shown then c :: plainFrom s cs else plainFrom s cs

/-- A text without escape sequences and control characters. What a sequence holds goes with it, and so does
the rest of a text that ends within one. -/
def plain (s : String) : String :=
  String.ofList (plainFrom .ground s.toList)

end AdminPanel.Text
