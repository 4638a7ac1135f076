import AdminPanel.Address.Uri
import AdminPanel.Address.Host
import AdminPanel.Text.Quoted

/-!
# Base addresses

The address of a server: its origin, and the prefix that all method paths share. Only `http` and
`https` addresses are taken, without a query. The prefix never ends in a slash.
-/

namespace AdminPanel.Address

open Text (quoted)

/-- Why a server cannot be dialed over TLS. -/
inductive TlsFault where
  | noRoots
  | unusableName
  deriving Repr, DecidableEq

def TlsFault.message : TlsFault → String
  | .noRoots => "no native certs found"
  | .unusableName => "invalid dns name"

/-- Why an address cannot be used. -/
inductive Fault where
  | malformed (address reason : String)
  | unsupportedScheme (address : String)
  | missingAuthority (address : String)
  | endpoint (cause : TlsFault)
  deriving Repr, DecidableEq

def Fault.message : Fault → String
  | .malformed address reason => "Malformed base address " ++ quoted address ++ ": " ++ reason
  | .unsupportedScheme address =>
    "Unsupported scheme in base address " ++ quoted address ++ " (expected http or https)"
  | .missingAuthority address => "Base address " ++ quoted address ++ " has no host"
  | .endpoint _ => "Invalid endpoint: transport error"

/-- The faults behind the fault, in words. -/
def Fault.causes : Fault → List String
  | .malformed .. => []
  | .unsupportedScheme _ => []
  | .missingAuthority _ => []
  | .endpoint cause => ["transport error", cause.message]

/-- An address in its parts. -/
structure Base where
  scheme : String
  authority : String
  /-- Empty, or a path that starts with a slash and does not end with one. -/
  pathPrefix : String
  deriving Repr, DecidableEq

def Base.origin (b : Base) : String := b.scheme ++ "://" ++ b.authority

/-- Whether the server is dialed over TLS. -/
def Base.tls (b : Base) : Bool := b.scheme == "https"

/-- The path without the slashes at its end. -/
def dropSlashes (path : String) : String :=
  String.ofList (Text.trimEndOf (· == '/') path.toList)

/-- Reads an address; blanks around it do not count. The host is asked for before the scheme, and the scheme
before the query, so that of several faults the first of these is reported. The fault names the address as it
was given. -/
def Base.parse (address : String) : Except Fault Base :=
  match Uri.parse (Text.trim address) with
  | .error e => .error (.malformed address e.message)
  | .ok uri =>
    match uri.authority with
    | none => .error (.missingAuthority address)
    | some authority =>
      match uri.scheme with
      | none => .error (.unsupportedScheme address)
      | some scheme =>
        if scheme ≠ "http" ∧ scheme ≠ "https" then .error (.unsupportedScheme address)
        else if uri.query.isSome then
          .error (.malformed address "query strings are not allowed")
        else .ok ⟨scheme, authority, dropSlashes uri.path⟩

/-- The path of a method below a prefix. A question mark in a name starts a query; a number sign
cuts the path. -/
def methodPath (pathPrefix service method : String) : Except UriFault String := do
  let (path, query) ← pathAndQuery (pathPrefix ++ "/" ++ service ++ "/" ++ method).toList
  match query with
  | none => .ok path
  | some q => .ok (path ++ "?" ++ q)

end AdminPanel.Address
