import AdminPanel.Rpc.Status
import AdminPanel.Text.Excerpt

/-!
# Failed calls

What a failed call means to the panel, by the code of its status. The server's words are passed on,
but never more than five hundred bytes of them; statuses of no class of their own are passed on
whole.
-/

namespace AdminPanel.Rpc

/-- Why a call failed. -/
inductive Failure where
  | authentication (message : String)
  | notFound (message : String)
  | unavailable (message : String)
  | unimplemented (message : String)
  | invalidRequest (message : String)
  | server (message : String)
  | status (status : Status)
  deriving Repr, DecidableEq

namespace Failure

/-- The most bytes of a server's message that are passed on. -/
def messageRoom : Nat := 500

/-- The class of a status, by its code alone. Most classes keep the message, cut to what is passed on. A
status of no class is kept as it is, with its whole message. -/
def ofStatus (s : Status) : Failure :=
  let message := Text.bounded messageRoom s.message
  match s.code with
  | .unauthenticated | .permissionDenied => .authentication message
  | .notFound => .notFound message
  | .unavailable => .unavailable message
  | .unimplemented => .unimplemented message
  | .invalidArgument | .failedPrecondition | .alreadyExists | .outOfRange =>
    .invalidRequest message
  | .internal | .unknown | .dataLoss => .server message
  | .ok | .cancelled | .deadlineExceeded | .resourceExhausted | .aborted => .status s

/-- Whether the server refused the session: a new login may help against such a failure, and against no
other. -/
def isAuthentication : Failure → Bool
  | .authentication _ => true
  | _ => false

def message : Failure → String
  | .authentication m => "Authentication failed - token may be expired: " ++ m
  | .notFound m => "Resource not found: " ++ m
  | .unavailable m => "Server unavailable: " ++ m
  | .unimplemented m => "Method not implemented by server: " ++ m
  | .invalidRequest m => "Invalid request: " ++ m
  | .server m => "Server error: " ++ m
  | .status s => "RPC failed: " ++ s.text

end Failure

end AdminPanel.Rpc
