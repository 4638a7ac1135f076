import AdminPanel.Json.Number
import AdminPanel.Json.Text

/-!
# Reading documents

A document is one value between separators. Lists and objects nest at most 127 deep. Of members
with one name the last counts.
-/

namespace AdminPanel.Json

namespace Reader

/-- Whether a list goes on: consumes the comma, leaves the closing bracket. -/
def hasItem (first : Bool) : Reader Bool := do
  match ← peekToken with
  | none => failNext .endInList
  | some ']' => pure false
  | some c =>
    if first then pure true
    else if c = ',' then
      skip
      match ← peekToken with
      | none => failNext .endInValue
      | some ']' => failNext .trailingComma
      | some _ => pure true
    else failNext .expectedListEnd

/-- Whether an object goes on: consumes the comma, leaves the closing brace or the quote of the
next name. -/
def hasMember (first : Bool) : Reader Bool := do
  match ← peekToken with
  | none => failNext .endInObject
  | some '\x7d' => pure false
  | some c =>
    if first then
      if c = '"' then pure true else failNext .keyNotString
    else if c = ',' then
      skip
      match ← peekToken with
      | none => failNext .endInValue
      | some '"' => pure true
      | some '\x7d' => failNext .trailingComma
      | some _ => failNext .keyNotString
    else failNext .expectedObjectEnd

/-- The colon behind a member's name. -/
def colon : Reader Unit := do
  match ← peekToken with
  | none => failNext .endInObject
  | some ':' => skip
  | some _ => failNext .expectedColon

/-- The items of a list whose bracket is consumed, up to and with its end. -/
def items (item : Reader α) (first : Bool) : Nat → Reader (List α)
  | 0 => fail .endInList
  | fuel + 1 => do
    if ← hasItem first then
      let a ← item
      return a :: (← items item false fuel)
    else
      skip
      return []

/-- The members of an object whose brace is consumed, up to and with its end, added to those
there are. Each takes its place as it is read, and a member of the same name gives way to it. -/
def members (item : Reader α) (first : Bool) (known : List (String × α)) :
    Nat → Reader (List (String × α))
  | 0 => fail .endInObject
  | fuel + 1 => do
    if ← hasMember first then
      -- the quote of the name has only been looked at
      skip
      let name ← string
      colon
      let a ← item
      members item false (Members.insert name a known) fuel
    else
      skip
      return known

/-- How deep lists and objects may nest. -/
def maxDepth : Nat := 127

/-- Any value, with lists and objects nested at most `depth` deep. Its first character decides what is read;
every item and every member takes at least one character, so that what is left bounds their number. -/
def value (depth : Nat) : Reader Value := do
  match ← peekToken with
  | none => failNext .endInValue
  | some 'n' => do skip; literal ['u', 'l', 'l']; pure .null
  | some 't' => do skip; literal ['r', 'u', 'e']; pure (.bool true)
  | some 'f' => do skip; literal ['a', 'l', 's', 'e']; pure (.bool false)
  | some '-' => do skip; return .number (← number false)
  | some '"' => do skip; return .string (← string)
  | some '[' =>
    match depth with
    | 0 => failNext .tooDeep
    | depth + 1 => do
      skip
      return .array (← items (value depth) true ((← remaining) + 1))
  | some '\x7b' =>
    match depth with
    | 0 => failNext .tooDeep
    | depth + 1 => do
      skip
      return .object (← members (value depth) true [] ((← remaining) + 1))
  | some c => if c.isDigit then return .number (← number true) else failNext .expectedValue

/-- Nothing but separators may follow. -/
def finish : Reader Unit := do
  match ← peekToken with
  | none => pure ()
  | some _ => failNext .trailingCharacters

end Reader

/-- Reads a whole text with a reader. What stands behind the value is looked at only once it has been read. -/
def Reader.readAll (r : Reader α) (s : String) : Except Fault α :=
  match (do let a ← r; Reader.finish; pure a : Reader α) (.ofString s) with
  | .ok (a, _) => .ok a
  | .error e => .error e

/-- Reads a text that holds one JSON value. -/
def parse (s : String) : Except Fault Value :=
  (Reader.value Reader.maxDepth).readAll s

end AdminPanel.Json
