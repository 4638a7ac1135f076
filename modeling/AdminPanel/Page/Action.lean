import AdminPanel.Page.Load
import AdminPanel.Json.Fault

/-!
# Actions

What can be done on the pages. Logging in is all or nothing: the token is stored only if the
server gave one, and nothing changes otherwise. A configuration is sent only if it is a JSON object,
and then exactly as it is.
-/

namespace AdminPanel.Page

open Message
open Rpc (OnLine Failure Line unary)

/-! ## Logging in and out -/

/-- Why logging in fails. -/
inductive LoginFault where
  | missingField (name : String)
  | rpc (failure : Failure)
  | storage (fault : Storage.Fault)
  deriving Repr, DecidableEq

def LoginFault.message : LoginFault → String
  | .missingField name => name ++ " is required"
  | .rpc failure => failure.message
  | .storage fault => "Login succeeded but the token could not be saved: " ++ fault.message

/-- What a login asks the server. Blanks around the account do not count; the password is sent as it is. -/
def authRequest (account password : String) : AuthRequest :=
  { account := some (.ofText (Text.trim account)), password := password }

/-- Exchanges an account and a password for a token, stores it, and gives the number of the user. Nothing
is sent without an account or a password. If the token cannot be stored the login has failed, although the
server has granted it. -/
def login (account password : String) : ExceptT LoginFault (StateM Line) UInt64 := do
  if (Text.trim account).isEmpty then throw (.missingField "account")
  if password.isEmpty then throw (.missingField "password")
  -- the call carries the token of the session that there still is, and fails if it cannot
  let response ← ExceptT.adapt LoginFault.rpc (unary .auth (authRequest account password))
  let line ← get
  match Session.start line.store response.token with
  | .error e => throw (.storage e)
  | .ok store => do
    set { line with store := store }
    return response.id

/-- Ends the session. The server is not told: its token stays good until it runs out. -/
def logout : ExceptT Storage.Fault (StateM Line) Unit := do
  let line ← get
  match Session.finish line.store with
  | .error e => throw e
  | .ok store => set { line with store := store }

/-! ## Services -/

/-- Switches the running state. -/
def setStatus (status : RunningStatus) (reason : String) : OnLine Unit := do
  let _ ← unary .setServerStatus { serverStatus := status.code, reason := reason }

/-- Publishes an announcement in the name of the session's account, and gives its number. Three calls are
made, each with what the one before has brought: whose account it is, which number it has, and the
announcement itself. The first to fail ends it, and then nothing is published. -/
def announce (title content : String) : OnLine UInt64 := do
  let account ← unary .getAccountInfo {}
  let publisher ← unary .getId { ocid := account.ocid }
  let announcement : Announcement :=
    { title := title, content := content, publisherId := publisher.id }
  let response ← unary .publishAnnouncement { announcement := some announcement }
  return response.id

/-! ## Users -/

/-- Bans a user; without a duration, for good. A reason that is not given is not sent, which is not the same
as an empty one. -/
def ban (userId : UInt64) (duration : Option Duration) (reason : Option String) : OnLine Unit := do
  let _ ← unary .banUser { userId := userId, reason := reason, duration := duration }

/-- Lifts a ban. -/
def unban (userId : UInt64) : OnLine Unit := do
  let _ ← unary .unbanUser { userId := userId }

/-- Deletes an account. -/
def deleteAccount (userId : UInt64) : OnLine Unit := do
  let _ ← unary .deleteAccount { userId := userId }

/-! ## Configuration -/

/-- The value of a configuration that may be sent. It must be a JSON object; what its members are is left to
the server. -/
def checkConfig (content : String) : Except Failure Json.Value :=
  match Json.parse content with
  | .error e => .error (.invalidRequest ("config is not valid JSON: " ++ e.message))
  | .ok value =>
    if value.isObject then .ok value
    else .error (.invalidRequest "config must be a JSON object")

/-- Replaces the configuration. A text that may not be sent is refused here, before anything is sent. -/
def setConfig (content : String) : OnLine Unit := do
  match checkConfig content with
  | .error e => throw e
  | .ok _ =>
    -- the text goes out as it was given: printing its value could reorder members and round numbers
    let _ ← unary .setConfig { content := content }

end AdminPanel.Page
