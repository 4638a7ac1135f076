import AdminPanel.Message.Time

/-!
# What the server tells about itself

Requests that need no session: reachability, clock, identity, and the number of a user.
-/

namespace AdminPanel.Message

open Wire (Layout)

/-- Whether the server is at work. -/
inductive RunningStatus where
  | normal
  | maintaining
  deriving Repr, DecidableEq, Inhabited

namespace RunningStatus

/-- The number that is sent. -/
def code : RunningStatus → Int32
  | .normal => 0
  | .maintaining => 1

/-- The state of a number. Other numbers may be sent, but name no state. -/
def ofCode? (n : Int32) : Option RunningStatus :=
  if n = 0 then some .normal else if n = 1 then some .maintaining else none

/-- The name of a state in listings. -/
def name : RunningStatus → String
  | .normal => "Normal"
  | .maintaining => "Maintaining"

def names : List (Int32 × String) :=
  [normal, maintaining].map fun s => (s.code, s.name)

end RunningStatus

/-- Asks whether the server answers. -/
structure PingRequest where
  deriving Repr, DecidableEq, Inhabited

def PingRequest.layout : Layout PingRequest :=
  .mk "PingRequest" {} .nil

/-- The server answers. -/
structure PingResponse where
  deriving Repr, DecidableEq, Inhabited

def PingResponse.layout : Layout PingResponse :=
  .mk "PingResponse" {} .nil

/-- Asks for the time of the server. -/
structure TimestampRequest where
  deriving Repr, DecidableEq, Inhabited

def TimestampRequest.layout : Layout TimestampRequest :=
  .mk "TimestampRequest" {} .nil

/-- The time of the server. -/
structure TimestampResponse where
  timestamp : Option Timestamp := none
  deriving Repr, DecidableEq, Inhabited

def TimestampResponse.layout : Layout TimestampResponse :=
  .mk "TimestampResponse" {} <|
  .cons 1 "timestamp" (.message Timestamp.layout) (·.timestamp)
    (fun v m => { m with timestamp := v }) <|
  .nil

/-- Asks what the server is. -/
structure GetServerInfoRequest where
  deriving Repr, DecidableEq, Inhabited

/-- The layout of `GetServerInfoRequest`. -/
def GetServerInfoRequest.layout : Layout GetServerInfoRequest :=
  .mk "GetServerInfoRequest" {} .nil

/-- The version of the server. -/
structure ServerVersion where
  major : UInt32 := 0
  minor : UInt32 := 0
  patch : UInt32 := 0
  deriving Repr, DecidableEq, Inhabited

def ServerVersion.layout : Layout ServerVersion :=
  .mk "ServerVersion" {} <|
  .cons 1 "major" (.scalar .uint32) (·.major) (fun v m => { m with major := v }) <|
  .cons 2 "minor" (.scalar .uint32) (·.minor) (fun v m => { m with minor := v }) <|
  .cons 3 "patch" (.scalar .uint32) (·.patch) (fun v m => { m with patch := v }) <|
  .nil

/-- What the server is. -/
structure GetServerInfoResponse where
  serverVersion : Option ServerVersion := none
  httpPort : UInt32 := 0
  status : Int32 := 0
  uniqueIdentifier : String := ""
  serverName : String := ""
  deriving Repr, DecidableEq, Inhabited

/-- The layout of `GetServerInfoResponse`. -/
def GetServerInfoResponse.layout : Layout GetServerInfoResponse :=
  .mk "GetServerInfoResponse" {} <|
  .cons 1 "server_version" (.message ServerVersion.layout) (·.serverVersion)
    (fun v m => { m with serverVersion := v }) <|
  .cons 2 "http_port" (.scalar .uint32) (·.httpPort) (fun v m => { m with httpPort := v }) <|
  .cons 3 "status" (.scalar (.enumeration RunningStatus.names)) (·.status)
    (fun v m => { m with status := v }) <|
  .cons 4 "unique_identifier" (.scalar .string) (·.uniqueIdentifier)
    (fun v m => { m with uniqueIdentifier := v }) <|
  .cons 5 "server_name" (.scalar .string) (·.serverName) (fun v m => { m with serverName := v }) <|
  .nil

/-- Asks for the number of a user. -/
structure GetIdRequest where
  ocid : String := ""
  deriving Repr, DecidableEq, Inhabited

def GetIdRequest.layout : Layout GetIdRequest :=
  .mk "GetIdRequest" {} <|
  .cons 1 "ocid" (.scalar .string) (·.ocid) (fun v m => { m with ocid := v }) <|
  .nil

/-- The number of a user. -/
structure GetIdResponse where
  id : UInt64 := 0
  deriving Repr, DecidableEq, Inhabited

def GetIdResponse.layout : Layout GetIdResponse :=
  .mk "GetIdResponse" {} <|
  .cons 1 "id" (.scalar .uint64) (·.id) (fun v m => { m with id := v }) <|
  .nil

end AdminPanel.Message
