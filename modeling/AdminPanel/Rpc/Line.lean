import AdminPanel.Rpc.Credential
import AdminPanel.Rpc.Failure
import AdminPanel.Rpc.Method
import AdminPanel.Rpc.Peer
import AdminPanel.Address.Base
import AdminPanel.Wire.Decode
import AdminPanel.Wire.Listing

/-!
# Calls

A line holds the storage of the session, the transport to the server, the peer at its end, and the
calls that have arrived there. Making a call puts the token into its headers, sends it below the
prefix of the base address, and reads the reply: of a single answer the first message counts, and
only if the final status is good.
-/

namespace AdminPanel.Rpc

open Storage (Store)
open Wire (Layout)

/-- Where calls are sent: the address as it was given, and what it is taken apart into. It is made once, and
no call changes it; the connection is made when the first call is sent. -/
structure Transport where
  baseAddress : String
  base : Address.Base
  deriving Repr, DecidableEq

namespace Transport

/-- A transport to an address. The address is read, and only if it asks for TLS the certificates matter:
without root certificates there is no transport, nor for a host that no certificate can name. Nobody is
dialed yet, so that an address at which nobody listens is as good as any other. -/
def new (address : String) (hasRoots : Bool) : Except Address.Fault Transport := do
  let base ← Address.Base.parse address
  -- roots come first: they are loaded before the name of the host is looked at
  if base.tls ∧ ¬ hasRoots then .error (.endpoint .noRoots)
  else if base.tls ∧ ¬ Address.isCertifiable base.authority then .error (.endpoint .unusableName)
  else .ok ⟨Text.trim address, base⟩

/-- The whole path of a method below the prefix of the base address. It is checked like any path, although
the names of the services and of the methods are known to be good ones. -/
def methodPath (t : Transport) (service method : String) : Except Status String :=
  match Address.methodPath t.base.pathPrefix service method with
  | .ok path => .ok path
  | .error e => .error ⟨.internal, "invalid method path: " ++ e.message, []⟩

/-- A transport in listings: the address and the prefix, and nothing of the session whose token it sends. -/
def listing (t : Transport) : String :=
  "Transport \x7b base_address: " ++ Text.quoted t.baseAddress ++ ", prefix: "
    ++ Text.quoted t.base.pathPrefix ++ ", .. \x7d"

end Transport

/-- A call as it arrives at the peer. -/
structure Call where
  path : String
  /-- The values of the header that carries the token, in order. -/
  credentials : List String
  body : List UInt8
  deriving Repr, DecidableEq

/-- The first value of the header that carries the token. -/
def Call.authorization (c : Call) : Option String := c.credentials.head?

/-- The storage, the way to the peer, and what has arrived there, in order. The storage is read anew for every
call, so that a token which is stored or removed counts from the next call on. -/
structure Line where
  store : Store
  transport : Transport
  peer : Peer
  calls : List Call := []

/-- What happens on a line, and may fail. -/
abbrev OnLine := ExceptT Failure (StateM Line)

/-- The result of an action on a line, and the line after it. -/
def runOn {ε α : Type} (act : ExceptT ε (StateM Line) α) (l : Line) : Except ε α × Line :=
  (ExceptT.run act).run l

/-- Fails as a status says. -/
def failStatus (s : Status) : OnLine α := throw (.ofStatus s)

/-- What a status without an error, or with one, means. -/
def checkStatus (s : Status) : OnLine Unit :=
  if s.code = .ok then pure () else failStatus s

/-- Sends a call and gives the reply. The path of the method is made, the token is put into the headers, and
then the peer is given the call and answers it. If any of this fails the call does not arrive, and the line
is as it was: a call that the peer cannot be given is not recorded. -/
def send (m : Method α β) (request : α) : OnLine Reply := do
  let line ← get
  -- a path that cannot be made is found before the storage is asked for the token
  let path ← (match line.transport.methodPath m.service.name m.name with
    | .ok path => pure path
    | .error s => failStatus s)
  let headers ← (match attach line.store [] with
    | .ok h => pure h
    | .error s => failStatus s)
  match line.peer.answer m.name with
  | (none, _) => failStatus ⟨.unavailable, "tcp connect error", []⟩
  | (some reply, peer) =>
    let call : Call := ⟨path, Headers.values headers authorization, m.request.write request⟩
    set { line with peer := peer, calls := line.calls ++ [call] }
    pure reply

/-- Reads the body of a message. One that does not follow the layout is a status, too: the caller cannot
tell it from one that the server has sent. -/
def readBody (m : Method α β) (body : List UInt8) : OnLine β :=
  match m.response.read body with
  | .ok b => pure b
  | .error e => failStatus ⟨.internal, e.message, []⟩

/-- The headers that every response begins with. They come with a status that is found before any
message has been. -/
def responseHeaders : Headers := [("content-type", "application/grpc")]

/-- The status of an answer that is no call's answer. -/
def httpStatus (h : Nat) : Status :=
  ⟨.ofHttp h, s!"grpc-status header missing, mapped from HTTP status code {h}", []⟩

/-- The status of an answer without a message. -/
def missingMessage : Status := ⟨.internal, "Missing response message.", []⟩

/-- The bodies and the ending of a reply. One that is a status, or no call's answer, fails; if its status
is good, or HTTP has nothing against it, it has no bodies. -/
def openReply : Reply → OnLine (List (List UInt8) × Ending)
  | .statusOnly code message => do
    checkStatus ⟨code, message, responseHeaders⟩
    pure ([], .status .ok "")
  | .http h => do
    if h = 200 then pure ([], .status .ok "") else failStatus (httpStatus h)
  | .messages bodies ending => pure (bodies, ending)

/-- Waits for the final status of a reply, however late it comes, and fails if it is not good. Headers
of the response are passed on with it if nothing has been read before. -/
def awaitStatus (headers : Headers) (ending : Ending) : OnLine Unit :=
  checkStatus ⟨ending.code, ending.message, headers⟩

/-- A call with a single answer: the first message counts, and only once the reply has ended with a
good status. That the message cannot be read comes before a status that is not good, and this comes
before the message.

Messages behind the first one do not count and are not looked at here. The rules of the transport
apply before: a message longer than the four mebibytes that it takes, or a later one that it cannot
take apart, is a status in the ending. -/
def unary (m : Method α β) (request : α) : OnLine β := do
  match ← openReply (← send m request) with
  | ([], ending) => do
    awaitStatus responseHeaders ending
    failStatus missingMessage
  | (body :: _, ending) => do
    let response ← readBody m body
    awaitStatus [] ending
    pure response

/-- How a stream of bodies ends for a reader who does not wait long for the next one: with its final
status, or, if that is late, as if there was nothing more to come. Only streams end like this. -/
def close : Ending → OnLine Unit
  | .status code message => checkStatus ⟨code, message, []⟩
  | .late _ _ => pure ()

/-- A call with a stream of answers: the bodies and the ending, which its reader takes one by one. -/
def streaming (m : Method α β) (request : α) : OnLine (List (List UInt8) × Ending) := do
  openReply (← send m request)

end AdminPanel.Rpc
