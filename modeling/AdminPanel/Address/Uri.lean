import AdminPanel.Text.Blank

/-!
# Resource identifiers

The generic grammar of a resource identifier: a scheme, an authority, a path and a query. A
fragment is dropped. The authority is checked for its brackets, its colons and its at sign, but
not for what a host or a port may look like.
-/

namespace AdminPanel.Address

/-- Why a text is no identifier. -/
inductive UriFault where
  | tooLong
  | empty
  | schemeTooLong
  | invalidAuthority
  | invalidCharacter
  | invalidFormat
  deriving Repr, DecidableEq

def UriFault.message : UriFault → String
  | .tooLong => "uri too long"
  | .empty => "empty string"
  | .schemeTooLong => "scheme too long"
  | .invalidAuthority => "invalid authority"
  | .invalidCharacter => "invalid uri character"
  | .invalidFormat => "invalid format"

/-- The parts of an identifier. The path is empty, or starts with a slash. -/
structure Uri where
  scheme : Option String := none
  authority : Option String := none
  path : String := ""
  query : Option String := none
  deriving Repr, DecidableEq

/-! ## Character classes -/

/-- A letter or a digit of ASCII. -/
def isAlnum (c : Char) : Bool := c.isAlpha || c.isDigit

/-- A character of a scheme. The tilde is let through beside those of the generic grammar. -/
def isSchemeChar (c : Char) : Bool :=
  isAlnum c || c == '+' || c == '-' || c == '.' || c == '~'

/-- A character that may stand in an identifier unescaped. -/
def isUriChar (c : Char) : Bool :=
  isAlnum c || "-._~:/?#[]@!$&'()*+,;=".toList.contains c

def endsAuthority (c : Char) : Bool :=
  c == '/' || c == '?' || c == '#'

/-- A character of a path. Characters outside ASCII, quotes and braces are let through. -/
def isPathChar (c : Char) : Bool :=
  let n := c.toNat
  n == 0x21 || (0x24 ≤ n && n ≤ 0x3B) || n == 0x3D || (0x40 ≤ n && n ≤ 0x5F)
    || (0x61 ≤ n && n ≤ 0x7A) || n == 0x7C || n == 0x7E
    || c == '"' || c == '\x7b' || c == '\x7d' || 0x80 ≤ n

def isQueryChar (c : Char) : Bool :=
  let n := c.toNat
  n == 0x21 || (0x24 ≤ n && n ≤ 0x3B) || n == 0x3D || (0x3F ≤ n && n ≤ 0x7E) || 0x80 ≤ n

/-! ## Scheme -/

/-- The scheme of a text and what follows it. -/
inductive SchemePart where
  | none
  | known (scheme : String) (rest : List Char)

/-- The text behind a start that matches whatever the case of its letters. -/
def dropStart? (start cs : List Char) : Option (List Char) :=
  if (cs.take start.length).map Char.toLower = start then some (cs.drop start.length) else none

/-- The longest name of a scheme. -/
def maxSchemeLength : Nat := 64

/-- Finds the scheme. A colon that is not followed by two slashes belongs to the authority. The two schemes of
the web are known whatever the case of their letters, and are given in small ones; any other is given as it
stands. -/
def takeScheme (cs : List Char) : Except UriFault SchemePart :=
  if let some rest := dropStart? ['h', 't', 't', 'p', ':', '/', '/'] cs then
    .ok (.known "http" rest)
  else if let some rest := dropStart? ['h', 't', 't', 'p', 's', ':', '/', '/'] cs then
    .ok (.known "https" rest)
  else
    let name := cs.takeWhile isSchemeChar
    match cs.drop name.length with
    | ':' :: '/' :: '/' :: rest =>
      if name.isEmpty ∧ rest.isEmpty then .ok .none
      else if maxSchemeLength < name.length then .error .schemeTooLong
      else .ok (.known (String.ofList name) rest)
    | _ => .ok .none

/-! ## Authority -/

/-- What the characters of an authority so far say about it. -/
structure AuthorityScan where
  colons : Nat := 0
  opened : Bool := false
  closed : Bool := false
  percent : Bool := false
  afterAt : Bool := false

/-- The most colons that an address in brackets can have. -/
def maxColons : Nat := 8

/-- Takes one character into account. What stands before an at sign, or inside brackets, is
forgotten. -/
def AuthorityScan.step (s : AuthorityScan) (c : Char) : Except UriFault AuthorityScan :=
  if c = ':' then
    if maxColons ≤ s.colons then .error .invalidAuthority
    else .ok { s with colons := s.colons + 1, afterAt := false }
  else if c = '[' then
    if s.percent ∨ s.opened then .error .invalidAuthority
    else .ok { s with opened := true, afterAt := false }
  else if c = ']' then
    if !s.opened ∨ s.closed then .error .invalidAuthority
    else .ok { s with closed := true, colons := 0, percent := false, afterAt := false }
  else if c = '@' then .ok { s with colons := 0, percent := false, afterAt := true }
  else if c = '%' then .ok { s with percent := true, afterAt := false }
  else if isUriChar c then .ok { s with afterAt := false }
  else .error .invalidCharacter

/-- Whether an authority may end like this. -/
def AuthorityScan.isComplete (s : AuthorityScan) : Bool :=
  s.opened == s.closed && s.colons ≤ 1 && !s.afterAt && !s.percent

/-- Splits the authority off the front. -/
def takeAuthority (cs : List Char) : Except UriFault (List Char × List Char) := do
  let authority := cs.takeWhile fun c => !endsAuthority c
  let scan ← authority.foldlM AuthorityScan.step {}
  if scan.isComplete then .ok (authority, cs.drop authority.length)
  else .error .invalidAuthority

/-! ## Path and query -/

/-- The path and the query of what follows the authority. -/
def pathAndQuery (cs : List Char) : Except UriFault (String × Option String) :=
  let path := cs.takeWhile fun c => c != '?' && c != '#'
  if !path.all isPathChar then .error .invalidCharacter
  else
    match cs.drop path.length with
    | '?' :: rest =>
      let query := rest.takeWhile (· != '#')
      if query.all isQueryChar then .ok (String.ofList path, some (String.ofList query))
      else .error .invalidCharacter
    | _ => .ok (String.ofList path, none)

/-! ## Whole identifiers -/

/-- The most bytes of an identifier. -/
def maxUriLength : Nat := 65534

/-- An identifier that does not start with a slash. Without a scheme, the authority is all there
is: a path behind it would be one that starts nowhere. -/
def parseFull (cs : List Char) : Except UriFault Uri := do
  match ← takeScheme cs with
  | .none =>
    let (authority, rest) ← takeAuthority cs
    if rest.isEmpty then .ok { authority := some (String.ofList authority) }
    else .error .invalidFormat
  | .known scheme rest =>
    if rest.isEmpty then .error .empty
    else
      let (authority, rest) ← takeAuthority rest
      if authority.isEmpty then .error .invalidFormat
      else
        let (path, query) ← pathAndQuery rest
        .ok ⟨some scheme, some (String.ofList authority), path, query⟩

/-- Reads an identifier. Texts of one character have rules of their own. -/
def Uri.parse (s : String) : Except UriFault Uri :=
  if maxUriLength < s.utf8ByteSize then .error .tooLong
  else
    match s.toList with
    | [] => .error .empty
    | ['/'] => .ok { path := "/" }
    | ['*'] => .ok { path := "*" }
    | [c] => do
      let (authority, rest) ← takeAuthority [c]
      if rest.isEmpty then .ok { authority := some (String.ofList authority) }
      else .error .invalidCharacter
    | '/' :: cs => do
      let (path, query) ← pathAndQuery ('/' :: cs)
      .ok { path := path, query := query }
    | cs => parseFull cs

end AdminPanel.Address
