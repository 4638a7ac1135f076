import AdminPanel.Settings.Basic
import AdminPanel.Json.Typed
import AdminPanel.Json.Fault
import AdminPanel.Time.Written
import AdminPanel.Time.Reading

/-!
# The settings document

Settings are written as an object with all five members. They are read from an object in any
order, with members missing, null or unknown, or from a list that gives them by position; what is
missing takes its default. A member must not occur twice.
-/

namespace AdminPanel.Settings

open Json (Value Reader)

/-! ## Writing -/

/-- The settings as an object, with what is absent as null. -/
def value (s : Settings) : Value := .object [
  ("base_address", .string s.baseAddress),
  ("storage", .string s.backend.name),
  ("last_account", .option .string s.lastAccount),
  ("last_login", .option (fun t => .string t.rfc3339) s.lastLogin),
  ("log_dir", .option .string s.logDir)]

def document (s : Settings) : String := s.value.print

/-! ## Reading the members -/

/-- The backend of a name, which must be written as the panel writes it. -/
def namedBackend (name : String) : Reader Backend :=
  match Backend.ofName? name with
  | some b => pure b
  | none => Reader.fail (.unknownVariant name (Backend.all.map Backend.name))

/-- A backend: its name, or an object that holds null under its name. -/
def backendMember : Reader Backend := do
  match ← Reader.peekToken with
  | none => Reader.failNext .endInValue
  | some '"' => do
    Reader.skip
    namedBackend (← Reader.string)
  | some '\x7b' => do
    Reader.skip
    if ← Reader.hasMember true then
      Reader.skip
      let b ← namedBackend (← Reader.string)
      Reader.colon
      match ← Reader.peekToken with
      | none => Reader.failNext .endInValue
      | some 'n' => do
        Reader.skip
        Reader.literal ['u', 'l', 'l']
      | some _ => Reader.mismatch "unit"
      match ← Reader.peekToken with
      | none => Reader.fail .endInObject
      | some '\x7d' => do
        Reader.skip
        pure b
      | some _ => Reader.fail .expectedValue
    else Reader.failNext .expectedValue
  | some _ => Reader.failNext .expectedValue

/-- An instant in its interchange form. -/
def instantMember : Reader Time.Instant := do
  let text ← Reader.typedString "an RFC 3339 formatted date and time string"
  match Time.Instant.read text with
  | .ok t => pure t
  | .error e => Reader.fail (.refused e.message)

/-! ## Reading the document -/

/-- The members that have been read so far. -/
structure Members where
  baseAddress : Option String := none
  backend : Option Backend := none
  lastAccount : Option (Option String) := none
  lastLogin : Option (Option Time.Instant) := none
  logDir : Option (Option String) := none

/-- The settings of the members; what is missing takes its default. -/
def Members.settings (m : Members) : Settings :=
  let d : Settings := {}
  ⟨m.baseAddress.getD d.baseAddress, m.backend.getD d.backend, m.lastAccount.getD d.lastAccount,
    m.lastLogin.getD d.lastLogin, m.logDir.getD d.logDir⟩

/-- The names of the members, in the order in which they are written. -/
def memberNames : List String :=
  ["base_address", "storage", "last_account", "last_login", "log_dir"]

/-- Whether a member of a name has been read. An unknown one may come any number of times. -/
def Members.has (m : Members) (name : String) : Bool :=
  match name with
  | "base_address" => m.baseAddress.isSome
  | "storage" => m.backend.isSome
  | "last_account" => m.lastAccount.isSome
  | "last_login" => m.lastLogin.isSome
  | "log_dir" => m.logDir.isSome
  | _ => false

/-- Reads the value of a member; that of an unknown one is skipped. -/
def Members.read (m : Members) (name : String) : Reader Members := do
  match name with
  | "base_address" => return { m with baseAddress := some (← Reader.typedString "a string") }
  | "storage" => return { m with backend := some (← backendMember) }
  | "last_account" =>
    return { m with lastAccount := some (← Reader.optional (Reader.typedString "a string")) }
  | "last_login" => return { m with lastLogin := some (← Reader.optional instantMember) }
  | "log_dir" =>
    return { m with logDir := some (← Reader.optional (Reader.typedString "path string")) }
  | _ => do
    Reader.skipValue
    return m

/-- Faults at a repeated member: behind its name, the separators there, and a closing brace. -/
def repeated (name : String) : Reader α := do
  if (← Reader.peekToken) == some '\x7d' then Reader.skip
  Reader.fail (.duplicateMember name)

/-- The members of an object whose brace is consumed, up to and with its end. Every member takes at least one
character, so that the length of the text is enough of a bound. -/
def objectMembers (first : Bool) (m : Members) : Nat → Reader Members
  | 0 => Reader.fail .endInObject
  | fuel + 1 => do
    if ← Reader.hasMember first then
      Reader.skip
      let name ← Reader.string
      if m.has name then repeated name
      else
        Reader.colon
        objectMembers false (← m.read name) fuel
    else
      Reader.skip
      return m

/-- The end of a list that has given every member. -/
def listEnd : Reader Unit := do
  match ← Reader.peekToken with
  | none => Reader.failNext .endInList
  | some ']' => Reader.skip
  | some ',' => do
    Reader.skip
    match ← Reader.peekToken with
    | some ']' => Reader.failNext .trailingComma
    | _ => Reader.failNext .trailingCharacters
  | some _ => Reader.failNext .trailingCharacters

/-- The members of a list whose bracket is consumed, up to and with its end. They come in the order in which
they are written; a list that is shorter leaves the others out, and a longer one is refused. -/
def listMembers (first : Bool) (m : Members) : List String → Reader Members
  | [] => do
    listEnd
    return m
  | name :: names => do
    if ← Reader.hasItem first then
      listMembers false (← m.read name) names
    else
      Reader.skip
      return m

/-- Reads settings: an object, or a list. -/
def reader : Reader Settings := do
  match ← Reader.peekToken with
  | none => Reader.failNext .endInValue
  | some '\x7b' => do
    Reader.skip
    return (← objectMembers true {} ((← Reader.remaining) + 1)).settings
  | some '[' => do
    Reader.skip
    return (← listMembers true {} memberNames).settings
  | some _ => Reader.mismatch "struct Config"

def ofDocument (text : String) : Except Json.Fault Settings :=
  reader.readAll text

end AdminPanel.Settings
