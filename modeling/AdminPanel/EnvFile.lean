import AdminPanel.Text.Alphanumeric
import AdminPanel.Text.Blank
import AdminPanel.FileTree

/-!
# Environment files

A file of assignments adds variables to the environment; a variable that is set already keeps its
value. Values may be quoted, strongly (nothing inside is special) or weakly, may run over several
lines inside quotes, and may refer to variables of the environment or of earlier assignments. The
first line that cannot be read ends the reading; what was assigned before stays.
-/

namespace AdminPanel

/-- Variables and their values. -/
abbrev Environment := List (String × String)

namespace Environment

/-- The value of a variable. -/
def get? (e : Environment) (name : String) : Option String :=
  (e.find? fun v => v.1 == name).map (·.2)

/-- Sets a variable unless it is set. -/
def setDefault (e : Environment) (name value : String) : Environment :=
  if (e.get? name).isSome then e else e ++ [(name, value)]

end Environment

namespace EnvFile

open Text (isBlank isAlphanumeric)

/-! ## Lines -/

/-- Where the text of a line stands with regard to quotes and comments. -/
inductive LineState where
  | plain
  | blank
  | escape
  | weak
  | weakEscape
  | strong
  | strongEscape
  deriving Repr, DecidableEq

/-- The state after a character outside quotes. -/
def plainStep (c : Char) : LineState :=
  if c = '\\' then .escape
  else if c = '"' then .weak
  else if c = '\'' then .strong
  else .plain

/-- The state after a character. A number sign behind a blank starts a comment (`none`). -/
def lineStep : LineState → Char → Option LineState
  | .blank, c => if c = '#' then none else some (plainStep c)
  | .escape, _ => some .plain
  | .plain, c =>
    if isBlank c && c != '\n' && c != '\r' then some .blank else some (plainStep c)
  | .weak, c => some (if c = '\\' then .weakEscape else if c = '"' then .plain else .weak)
  | .weakEscape, _ => some .weak
  | .strong, c => some (if c = '\\' then .strongEscape else if c = '\'' then .plain else .strong)
  | .strongEscape, _ => some .strong

/-- Scans a line. Gives the state at its end, or, if a comment starts, what stands before it. -/
def scanLine (before : List Char) (s : LineState) : List Char → Except (List Char) LineState
  | [] => .ok s
  | c :: cs =>
    match lineStep s c with
    | none => .error before.reverse
    | some s => scanLine (c :: before) s cs

/-- The lines of a file, each with its line break; bytes that are no text end them (`none`). -/
def splitLines (current : List UInt8) : List UInt8 → List (Option String)
  | [] => if current.isEmpty then [] else [String.fromUTF8? ⟨current.reverse.toArray⟩]
  | b :: bs =>
    if b = 10 then String.fromUTF8? ⟨(b :: current).reverse.toArray⟩ :: splitLines [] bs
    else splitLines (b :: current) bs

/-- A line without its line break. -/
def dropBreak (cs : List Char) : List Char :=
  match cs.reverse with
  | '\n' :: '\r' :: rest => rest.reverse
  | '\n' :: rest => rest.reverse
  | _ => cs

/-- Joins the lines that open quotes connect. A `none` marks where reading stops: at bytes that are no text, or
at the end of the file inside quotes. Lines before it still count. -/
def joinLines (held : List Char) (s : LineState) : List (Option String) → List (Option (List Char))
  | [] => if held.isEmpty && s = .plain then [] else [none]
  | none :: _ => [none]
  | some line :: rest =>
    let text := held ++ line.toList
    if (text.dropWhile isBlank).head? = some '#' then some [] :: joinLines [] .plain rest
    else
      match scanLine [] s line.toList with
      | .error before => some (held ++ before) :: joinLines [] .plain rest
      | .ok .plain => some (dropBreak text) :: joinLines [] .plain rest
      | .ok s => joinLines text s rest

/-! ## Values -/

/-- Whether the name of a variable is being read, and how. -/
inductive Reference where
  | none
  | bare
  | braced
  deriving Repr, DecidableEq

/-- What has been read of a value. -/
structure ValueState where
  strong : Bool := false
  weak : Bool := false
  escaped : Bool := false
  ending : Bool := false
  reference : Reference := .none
  /-- The characters of the name, the last first. -/
  name : List Char := []
  /-- The characters of the value, the last first. -/
  output : List Char := []

/-- The variables that a value may refer to. -/
abbrev Lookup := String → String

/-- Ends the name of a variable and puts its value in its place. A variable that is not set leaves nothing. -/
def ValueState.resolve (look : Lookup) (s : ValueState) : ValueState :=
  let value := look (String.ofList s.name.reverse)
  { s with name := [], output := value.toList.reverse ++ s.output }

/-- Adds a character to the value. -/
def ValueState.push (s : ValueState) (c : Char) : ValueState :=
  { s with output := c :: s.output }

/-- Takes the character behind a backslash. Only a few may be escaped; any other makes the value
unreadable. -/
def ValueState.stepEscaped (s : ValueState) (c : Char) : Option ValueState :=
  let s := { s with escaped := false }
  if c = 'n' then some (s.push '\n')
  else if c = '\\' ∨ c = '\'' ∨ c = '"' ∨ c = '$' ∨ c = ' ' then some (s.push c)
  else none

/-- Takes a character of the name of a variable, or the one that ends it. -/
def ValueState.stepReference (look : Lookup) (s : ValueState) (c : Char) : ValueState :=
  if isAlphanumeric c then { s with name := c :: s.name }
  else if s.reference = .braced then
    if c = '\x7d' then { (s.resolve look) with reference := .none }
    else { s with name := c :: s.name }
  else if c = '\x7b' ∧ s.name.isEmpty then { s with reference := .braced }
  else
    -- the character that ends a bare name is always part of the value, even a closing quote
    let s := s.resolve look
    if c = '$' then s else { s with reference := .none }.push c

/-- Takes a character outside strong quotes and names. -/
def ValueState.stepPlain (s : ValueState) (c : Char) : ValueState :=
  if c = '$' then { s with reference := .bare }
  else if c = '\\' then { s with escaped := true }
  else if s.weak then if c = '"' then { s with weak := false } else s.push c
  else if c = '\'' then { s with strong := true }
  else if c = '"' then { s with weak := true }
  else if c = ' ' ∨ c = '\t' then { s with ending := true }
  else s.push c

/-- The value of the characters. Behind an unquoted blank only a comment may follow. -/
def valueFrom (look : Lookup) (s : ValueState) : List Char → Option String
  | [] =>
    if s.reference = .braced ∨ s.strong ∨ s.weak then none
    else some (String.ofList (s.resolve look).output.reverse)
  | c :: cs =>
    if s.ending then
      if c = ' ' ∨ c = '\t' then valueFrom look s cs
      else if c = '#' then
        if s.reference = .braced ∨ s.strong ∨ s.weak then none
        else some (String.ofList (s.resolve look).output.reverse)
      else none
    else if s.escaped then
      match s.stepEscaped c with
      | some s => valueFrom look s cs
      | none => none
    else if s.strong then
      if c = '\'' then valueFrom look { s with strong := false } cs
      else valueFrom look (s.push c) cs
    else if s.reference ≠ .none then valueFrom look (s.stepReference look c) cs
    else valueFrom look (s.stepPlain c) cs

/-! ## Assignments -/

def startsName (c : Char) : Bool := c.isAlpha || c == '_'

def isNameChar (c : Char) : Bool := c.isAlpha || c.isDigit || c == '_' || c == '.'

/-- Splits a name off the front. -/
def takeName : List Char → Option (String × List Char)
  | [] => none
  | c :: cs =>
    if startsName c then
      some (String.ofList ((c :: cs).takeWhile isNameChar), (c :: cs).dropWhile isNameChar)
    else none

/-- Splits a name and an equals sign off the front. The word `export` may stand before the name. -/
def takeTarget (cs : List Char) : Option (String × List Char) := do
  let (name, rest) ← takeName cs
  match rest.dropWhile isBlank with
  | '=' :: rest => some (name, rest)
  | rest =>
    if name = "export" then
      let (name, rest) ← takeName rest
      match rest.dropWhile isBlank with
      | '=' :: rest => some (name, rest)
      | _ => none
    else none

/-- What a line says. -/
inductive Assignment where
  | nothing
  | set (name value : String)
  | unreadable

/-- What a line says: an assignment, or nothing if it is blank or a comment. -/
def readLine (look : Lookup) (line : List Char) : Assignment :=
  match (Text.trimEndOf isBlank line).dropWhile isBlank with
  | [] => .nothing
  | '#' :: _ => .nothing
  | cs =>
    match takeTarget cs with
    | none => .unreadable
    | some (name, rest) =>
      match rest.dropWhile isBlank with
      | [] => .set name ""
      | '#' :: _ => .set name ""
      | cs =>
        match valueFrom look {} cs with
        | some value => .set name value
        | none => .unreadable

/-- Makes the assignments of lines, until one cannot be read. The values that the lines give are
kept apart from the environment: a reference to a variable that is set already sees the value of
the environment. -/
def assign (e : Environment) (given : List (String × String)) :
    List (Option (List Char)) → Environment
  | [] => e
  | none :: _ => e
  | some line :: rest =>
    let look (name : String) : String :=
      (e.get? name).getD ((Environment.get? given name).getD "")
    match readLine look line with
    | .nothing => assign e given rest
    | .unreadable => e
    | .set name value => assign (e.setDefault name value) ((name, value) :: given) rest

/-- Drops a byte-order mark. -/
def dropMark : List UInt8 → List UInt8
  | 0xEF :: 0xBB :: 0xBF :: rest => rest
  | bytes => bytes

/-- Adds the variables of a file to an environment. That a line cannot be read is nobody's concern: the run
goes on with what has been assigned before. -/
def load (e : Environment) (bytes : List UInt8) : Environment :=
  assign e [] (joinLines [] .plain (splitLines [] (dropMark bytes)))

/-- The nearest environment file, from a directory upwards. The directory's names are given from
the last to the first. -/
def findFrom (files : FileTree) : List String → Option (List UInt8)
  | [] =>
    match files.look [".env"] with
    | .ok (.file f) => some f.bytes
    | _ => none
  | name :: above =>
    match files.look ((name :: above).reverse ++ [".env"]) with
    | .ok (.file f) => some f.bytes
    | _ => findFrom files above

end EnvFile

end AdminPanel
