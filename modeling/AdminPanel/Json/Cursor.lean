import AdminPanel.Json.Value

/-!
# Reading position and faults

A document is read from left to right by a cursor that knows its line and column. Columns count
the bytes since the last line break. A fault is reported either where the cursor stands, or one
byte further on, when the next character was only looked at.
-/

namespace AdminPanel.Json

/-- A place in a document: lines from one, columns in bytes from the start of the line. -/
structure Position where
  line : Nat := 1
  column : Nat := 0
  deriving Repr, DecidableEq, Inhabited

/-- What kind of value was found where another was wanted. -/
inductive Found where
  | null
  | bool (value : Bool)
  | number (value : Number)
  | string (value : String)
  | array
  | object
  deriving Repr, DecidableEq

/-- Why a document cannot be read. -/
inductive Problem where
  | endInList
  | endInObject
  | endInString
  | endInValue
  | expectedColon
  | expectedListEnd
  | expectedObjectEnd
  | expectedIdent
  | expectedValue
  | invalidEscape
  | invalidNumber
  | numberOutOfRange
  | loneSurrogate
  | unfinishedSurrogate
  | controlCharacter
  | keyNotString
  | trailingComma
  | trailingCharacters
  | tooDeep
  | mismatch (found : Found) (expected : String)
  | unknownVariant (name : String) (known : List String)
  | duplicateMember (name : String)
  | refused (reason : String)
  deriving Repr, DecidableEq

/-- A problem and where it was noticed. -/
structure Fault where
  problem : Problem
  position : Position
  deriving Repr, DecidableEq

/-- What is left of a document, and where that starts. -/
structure Cursor where
  rest : List Char
  position : Position := {}
  deriving Repr, DecidableEq

/-- A reader consumes a part of the document or faults. -/
abbrev Reader := StateT Cursor (Except Fault)

/-- The place behind one character. -/
def Position.after (p : Position) (c : Char) : Position :=
  if c = '\n' then ⟨p.line + 1, 0⟩ else ⟨p.line, p.column + c.utf8Size⟩

/-- The place `n` bytes further on, or the end of the document. -/
def Position.afterBytes (p : Position) : Nat → List Char → Position
  | 0, _ => p
  | _, [] => p
  | n + 1, c :: cs =>
    if c.utf8Size ≤ n + 1 then (p.after c).afterBytes (n + 1 - c.utf8Size) cs
    else ⟨p.line, p.column + (n + 1)⟩
  termination_by _ cs => cs.length

/-- A cursor at the start of a text. -/
def Cursor.ofString (s : String) : Cursor := ⟨s.toList, {}⟩

namespace Reader

def fail (problem : Problem) : Reader α := fun c =>
  .error ⟨problem, c.position⟩

/-- Faults `n` bytes behind the cursor's place. -/
def failAfter (n : Nat) (problem : Problem) : Reader α := fun c =>
  .error ⟨problem, c.position.afterBytes n c.rest⟩

/-- Faults at a character that was looked at but not consumed. -/
def failNext (problem : Problem) : Reader α :=
  failAfter 1 problem

/-- The next character, which stays. -/
def peek : Reader (Option Char) := fun c =>
  .ok (c.rest.head?, c)

/-- Consumes one character. -/
def skip : Reader Unit := fun c =>
  match c.rest with
  | [] => .ok ((), c)
  | ch :: rest => .ok ((), ⟨rest, c.position.after ch⟩)

/-- The number of characters left: no loop over the document takes more turns. -/
def remaining : Reader Nat := fun c =>
  .ok (c.rest.length, c)

/-- A space, a tab or a line break of the format. Other blanks do not separate anything. -/
def isSeparator (c : Char) : Bool :=
  c == ' ' || c == '\n' || c == '\t' || c == '\r'

/-- Consumes characters from the front while they satisfy `p`. -/
def dropWhile (p : Char → Bool) (at_ : Position) : List Char → Cursor
  | [] => ⟨[], at_⟩
  | c :: cs => if p c then dropWhile p (at_.after c) cs else ⟨c :: cs, at_⟩

/-- Consumes separators and looks at what follows them. -/
def peekToken : Reader (Option Char) := fun c =>
  let d := dropWhile isSeparator c.position c.rest
  .ok (d.rest.head?, d)

/-- Consumes the rest of a literal name, character by character. -/
def literal : List Char → Reader Unit
  | [] => pure ()
  | want :: more => do
    match ← peek with
    | none => fail .endInValue
    | some c => if c = want then skip; literal more else failNext .expectedIdent

end Reader

end AdminPanel.Json
