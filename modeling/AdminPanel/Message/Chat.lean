import AdminPanel.Message.Time

/-!
# Messages between users

The account of the session, and deliveries since a time.
-/

namespace AdminPanel.Message

open Wire (Layout)

/-- Asks for an account; without a number, for that of the session. -/
structure GetAccountInfoRequest where
  id : Option UInt64 := none
  deriving Repr, DecidableEq, Inhabited

/-- The layout of `GetAccountInfoRequest`. -/
def GetAccountInfoRequest.layout : Layout GetAccountInfoRequest :=
  .mk "GetAccountInfoRequest" {} <|
  .cons 1 "id" (.optional .uint64) (·.id) (fun v m => { m with id := v }) <|
  .nil

/-- An account. -/
structure GetAccountInfoResponse where
  ocid : String := ""
  email : String := ""
  userName : String := ""
  deriving Repr, DecidableEq, Inhabited

/-- The layout of `GetAccountInfoResponse`. -/
def GetAccountInfoResponse.layout : Layout GetAccountInfoResponse :=
  .mk "GetAccountInfoResponse" {} <|
  .cons 1 "ocid" (.scalar .string) (·.ocid) (fun v m => { m with ocid := v }) <|
  .cons 2 "email" (.scalar .string) (·.email) (fun v m => { m with email := v }) <|
  .cons 3 "user_name" (.scalar .string) (·.userName) (fun v m => { m with userName := v }) <|
  .nil

/-- Asks for deliveries since a time. -/
structure FetchMsgsRequest where
  time : Option Timestamp := none
  deriving Repr, DecidableEq, Inhabited

def FetchMsgsRequest.layout : Layout FetchMsgsRequest :=
  .mk "FetchMsgsRequest" {} <|
  .cons 1 "time" (.message Timestamp.layout) (·.time) (fun v m => { m with time := v }) <|
  .nil

/-- One delivery. -/
structure FetchMsgsResponse where
  msgId : UInt64 := 0
  time : Option Timestamp := none
  senderId : Option UInt64 := none
  content : String := ""
  isAnnouncement : Bool := false
  deriving Repr, DecidableEq, Inhabited

def FetchMsgsResponse.layout : Layout FetchMsgsResponse :=
  .mk "FetchMsgsResponse" {} <|
  .cons 1 "msg_id" (.scalar .uint64) (·.msgId) (fun v m => { m with msgId := v }) <|
  .cons 2 "time" (.message Timestamp.layout) (·.time) (fun v m => { m with time := v }) <|
  .cons 3 "sender_id" (.optional .uint64) (·.senderId) (fun v m => { m with senderId := v }) <|
  .cons 4 "content" (.scalar .string) (·.content) (fun v m => { m with content := v }) <|
  .cons 5 "is_announcement" (.scalar .bool) (·.isAnnouncement)
    (fun v m => { m with isAnnouncement := v }) <|
  .nil

end AdminPanel.Message
