import AdminPanel.Text.Quoted

/-!
# Statuses of calls

How a call ended: a code, a message, and the headers that came with it.
-/

namespace AdminPanel.Rpc

/-- The codes that a call can end with. -/
inductive Code where
  | ok
  | cancelled
  | unknown
  | invalidArgument
  | deadlineExceeded
  | notFound
  | alreadyExists
  | permissionDenied
  | resourceExhausted
  | failedPrecondition
  | aborted
  | outOfRange
  | unimplemented
  | internal
  | unavailable
  | dataLoss
  | unauthenticated
  deriving Repr, DecidableEq, Inhabited

namespace Code

/-- The codes in the order of their numbers. -/
def all : List Code := [
  ok, cancelled, unknown, invalidArgument, deadlineExceeded, notFound, alreadyExists,
  permissionDenied, resourceExhausted, failedPrecondition, aborted, outOfRange, unimplemented,
  internal, unavailable, dataLoss, unauthenticated]

/-- The code of a number, as it stands in the trailers of a reply. A number without a code is unknown; it
is not an error to send one. -/
def ofInt (n : Int) : Code :=
  if 0 ≤ n then all[n.toNat]?.getD .unknown else .unknown

/-- The code for an answer without a status, from its HTTP status. A gateway on the way to the server
answers like this when it has no server to ask, or refuses the call itself, so that 401 and 403 are
refusals here, too. -/
def ofHttp (h : Nat) : Code :=
  if h = 400 then .internal
  else if h = 401 then .unauthenticated
  else if h = 403 then .permissionDenied
  else if h = 404 then .unimplemented
  else if h = 429 ∨ h = 502 ∨ h = 503 ∨ h = 504 then .unavailable
  else .unknown

def name : Code → String
  | .ok => "Ok"
  | .cancelled => "Cancelled"
  | .unknown => "Unknown"
  | .invalidArgument => "InvalidArgument"
  | .deadlineExceeded => "DeadlineExceeded"
  | .notFound => "NotFound"
  | .alreadyExists => "AlreadyExists"
  | .permissionDenied => "PermissionDenied"
  | .resourceExhausted => "ResourceExhausted"
  | .failedPrecondition => "FailedPrecondition"
  | .aborted => "Aborted"
  | .outOfRange => "OutOfRange"
  | .unimplemented => "Unimplemented"
  | .internal => "Internal"
  | .unavailable => "Unavailable"
  | .dataLoss => "DataLoss"
  | .unauthenticated => "Unauthenticated"

end Code

/-- How a call ended. The headers are those of the response that had arrived when the status was found: a
status that comes after a message has none. -/
structure Status where
  code : Code
  message : String
  headers : List (String × String) := []
  deriving Repr, DecidableEq

/-- A status on one line, with everything that belongs to it. A panel never receives details, so that their
place in the line is always empty. -/
def Status.text (s : Status) : String :=
  let headers := s.headers.map fun (k, v) => Text.quoted k ++ ": " ++ Text.quoted v
  "status: " ++ s.code.name ++ ", message: " ++ Text.quoted s.message
    ++ ", details: [], metadata: MetadataMap \x7b headers: \x7b" ++ ", ".intercalate headers
    ++ "\x7d \x7d"

end AdminPanel.Rpc
