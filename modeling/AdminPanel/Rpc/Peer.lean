import AdminPanel.Rpc.Status

/-!
# The other end of the line

A peer answers calls by a script, or cannot be reached. A script has a list of replies for a
method: each is used once, and the last one from then on.

This stands for the server and for the connection to it. Of the traffic there is what the panel can
tell apart: the bodies of messages, the status that they end with, and whether it comes in time.
-/

namespace AdminPanel.Rpc

/-- How the messages of a reply end: with a final status, at once or late.

A late status comes after a silence that is longer than the reader of a stream waits for the next
message. Whoever asks for a single answer waits for it all the same, without any limit; so a peer that
never ends a reply gives such a call no result at all, and no ending stands for it. To the reader of a
stream, who has left by then, it is the same as a late status. -/
inductive Ending where
  | status (code : Code) (message : String)
  | late (code : Code) (message : String)
  deriving Repr, DecidableEq

namespace Ending

/-- The code of the final status, whenever it comes. -/
def code : Ending → Code
  | .status code _ => code
  | .late code _ => code

/-- The message of the final status, whenever it comes. -/
def message : Ending → String
  | .status _ message => message
  | .late _ message => message

end Ending

/-- An answer to a call. -/
inductive Reply where
  /-- Message bodies, then an ending. -/
  | messages (bodies : List (List UInt8)) (ending : Ending)
  /-- A status without any message, in the headers of the response. -/
  | statusOnly (code : Code) (message : String)
  /-- An answer that is no call's answer, with an HTTP status. -/
  | http (status : Nat)
  deriving Repr, DecidableEq

/-- Replies by the name of the method. -/
abbrev Script := List (String × List Reply)

namespace Script

/-- The reply to a method that the script does not name: a server says in the headers, and without
a message, that it does not have the method. -/
def unknownMethod : Reply := .statusOnly .unimplemented ""

/-- The next reply for a method, and the script after it: a list of replies is used up in order, but
for the last one, which stays. -/
def next (name : String) : Script → Reply × Script
  | [] => (unknownMethod, [])
  | (other, replies) :: rest =>
    if other = name then
      match replies with
      | [] => (unknownMethod, (other, []) :: rest)
      | [last] => (last, (other, [last]) :: rest)
      | reply :: more => (reply, (other, more) :: rest)
    else
      let (reply, rest) := next name rest
      (reply, (other, replies) :: rest)

/-- Replaces the replies for a method. -/
def set (name : String) (replies : List Reply) (s : Script) : Script :=
  (name, replies) :: s.filter fun e => e.1 ≠ name

end Script

/-- Who is at the other end. -/
inductive Peer where
  /-- Nobody accepts a connection. -/
  | unreachable
  | scripted (script : Script)
  deriving Repr, DecidableEq

/-- The answer to one call (none if the peer cannot be reached), and the peer after it. Only the replies of
the method that is called move on, so that calls to other methods can be made in any order between. -/
def Peer.answer (name : String) : Peer → Option Reply × Peer
  | .unreachable => (none, .unreachable)
  | .scripted script =>
    let (reply, script) := script.next name
    (some reply, .scripted script)

end AdminPanel.Rpc
