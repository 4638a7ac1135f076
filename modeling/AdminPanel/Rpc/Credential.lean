import AdminPanel.Rpc.Status
import AdminPanel.Session

/-!
# The credential of a call

Every call carries the token of the session, read at the moment the call is made. A call without a
session goes out as it is; a call whose token cannot be read or sent does not go out at all.
-/

namespace AdminPanel.Rpc

open Storage (Store)

/-- The headers of a call: names in lower case, each any number of times. -/
abbrev Headers := List (String × String)

/-- The header that carries the token. -/
def authorization : String := "authorization"

namespace Headers

/-- Headers with their names in lower case. -/
def ofList (entries : List (String × String)) : Headers :=
  entries.map fun (k, v) => (Text.lowerAscii k, v)

/-- The values of a header, in order. -/
def values (h : Headers) (name : String) : List String :=
  (h.filter fun e => e.1 == name).map (·.2)

/-- Gives a header exactly one value: whatever values it had are gone, and all other headers stay. -/
def set (h : Headers) (name value : String) : Headers :=
  h.filter (fun e => e.1 != name) ++ [(name, value)]

/-- The headers by name; the values of one header keep their order. -/
def sorted (h : Headers) : Headers :=
  h.mergeSort fun a b => !decide (b.1 < a.1)

end Headers

/-- A character that a header can carry: no control character but the tab. What is not ASCII goes out in the
bytes of its encoding, which headers can carry. -/
def isHeaderChar (c : Char) : Bool :=
  c == '\t' || (0x20 ≤ c.toNat && c.toNat != 0x7F)

/-- The value that carries a token. -/
def bearer (token : String) : String := "Bearer " ++ token

/-- Puts the token of the session into the headers of a call. The storage is read each time. Without a token
the call goes out without a credential: a page that needs none can then still be loaded, and the server
refuses the others itself. A storage that cannot be read, and a token that no header can carry, stop the
call. -/
def attach (s : Store) (h : Headers) : Except Status Headers :=
  match Session.token s with
  | .error e => .error ⟨.internal, "credential storage unavailable: " ++ e.message, []⟩
  | .ok none => .ok h
  | .ok (some token) =>
    if (bearer token).toList.all isHeaderChar then .ok (h.set authorization (bearer token))
    else .error ⟨.unauthenticated, "stored token is not a valid header value", []⟩

/-- A call on its way out: its headers, and what it carries. -/
structure Outgoing (α : Type) where
  headers : Headers
  payload : α
  deriving Repr, DecidableEq

/-- Puts the token of the session into a call on its way out, whatever it carries. -/
def Outgoing.attach (s : Store) (r : Outgoing α) : Except Status (Outgoing α) :=
  match Rpc.attach s r.headers with
  | .ok headers => .ok { r with headers }
  | .error status => .error status

end AdminPanel.Rpc
