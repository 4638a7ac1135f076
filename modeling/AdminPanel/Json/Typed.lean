import AdminPanel.Json.Skip

/-!
# Reading values of a known kind

Where a document must hold a string or an object of strings, any other value is a mismatch. A
scalar of the wrong kind is read before it is refused; a list or an object is refused at its
bracket.
-/

namespace AdminPanel.Json.Reader

/-- Refuses the value at the cursor: `expected` names what should stand there. -/
def mismatch (expected : String) : Reader α := do
  match ← peek with
  | none => failNext .endInValue
  | some 'n' => do
    skip
    literal ['u', 'l', 'l']
    fail (.mismatch .null expected)
  | some 't' => do
    skip
    literal ['r', 'u', 'e']
    fail (.mismatch (.bool true) expected)
  | some 'f' => do
    skip
    literal ['a', 'l', 's', 'e']
    fail (.mismatch (.bool false) expected)
  | some '-' => do
    skip
    let n ← number false
    fail (.mismatch (.number n) expected)
  | some '"' => do
    skip
    let s ← string
    fail (.mismatch (.string s) expected)
  | some '[' => fail (.mismatch .array expected)
  | some '\x7b' => fail (.mismatch .object expected)
  | some c => do
    if c.isDigit then
      let n ← number true
      fail (.mismatch (.number n) expected)
    else failNext .expectedValue

/-- A string, named `expected` if something else is found. -/
def typedString (expected : String) : Reader String := do
  match ← peekToken with
  | none => failNext .endInValue
  | some '"' => do skip; string
  | some _ => mismatch expected

/-- `null` or what the reader reads. -/
def optional (r : Reader α) : Reader (Option α) := do
  match ← peekToken with
  | some 'n' => do skip; literal ['u', 'l', 'l']; pure none
  | _ => return some (← r)

/-- An object whose members are all strings. -/
def stringMembers : Reader (List (String × String)) := do
  match ← peekToken with
  | none => failNext .endInValue
  | some '\x7b' => do
    skip
    members (typedString "a string") true [] ((← remaining) + 1)
  | some _ => mismatch "a map"

end AdminPanel.Json.Reader
