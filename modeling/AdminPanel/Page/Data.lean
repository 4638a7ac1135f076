import AdminPanel.Message.Management
import AdminPanel.Message.Chat
import AdminPanel.Json.Document
import AdminPanel.Navigation.Route

/-!
# What pages show

The data of each page, made from what the server answers.
-/

namespace AdminPanel.Page

open Decimal (Binary64)
open Message
open Time (Instant)

/-- The running state of the server, as far as it is known. -/
inductive ServerState where
  | normal
  | maintaining
  | unknown
  deriving Repr, DecidableEq, Inhabited

namespace ServerState

def name : ServerState → String
  | .normal => "normal"
  | .maintaining => "maintaining"
  | .unknown => "unknown"

def ofName? (s : String) : Option ServerState :=
  [normal, maintaining, unknown].find? fun st => st.name == s

/-- The state that a number stands for. The server may have states that the panel does not know; none of
them is taken for one that it does. -/
def ofCode (n : Int32) : ServerState :=
  match RunningStatus.ofCode? n with
  | some .normal => .normal
  | some .maintaining => .maintaining
  | none => .unknown

end ServerState

/-- What the server tells about itself. -/
structure ServerInfo where
  name : String
  version : String
  httpPort : UInt32
  status : ServerState
  uniqueIdentifier : String
  deriving Repr, DecidableEq, Inhabited

/-- A version as three numbers with points between them. -/
def versionText (v : ServerVersion) : String :=
  s!"{v.major.toNat}.{v.minor.toNat}.{v.patch.toNat}"

/-- The information of an answer. -/
def ServerInfo.ofResponse (r : GetServerInfoResponse) : ServerInfo where
  name := r.serverName
  version := (r.serverVersion.map versionText).getD "unknown"
  httpPort := r.httpPort
  status := .ofCode r.status
  uniqueIdentifier := r.uniqueIdentifier

/-- The instant of a stamp that may be absent. A stamp outside the calendar is absent, too: a page is shown
without a time rather than not at all. -/
def instantOf (stamp : Option Timestamp) : Option Instant :=
  stamp.bind Timestamp.instant?

/-- Measurements of the server. -/
structure Monitor where
  activeConnections : UInt64 := 0
  totalUsers : UInt64 := 0
  messagesPerSecond : Binary64 := .zero
  uptimeSeconds : UInt64 := 0
  cpuUsagePercent : Option Binary64 := none
  memoryUsagePercent : Option Binary64 := none
  diskUsagePercent : Option Binary64 := none
  sampledAt : Option Instant := none
  deriving DecidableEq

/-- The measurements of an answer. -/
def Monitor.ofMetrics (m : MonitoringMetrics) : Monitor where
  activeConnections := m.activeConnections
  totalUsers := m.totalUsers
  messagesPerSecond := m.messagesPerSecond
  uptimeSeconds := m.uptimeSeconds
  cpuUsagePercent := m.system.map (·.cpuUsagePercent)
  memoryUsagePercent := m.system.map (·.memoryUsagePercent)
  diskUsagePercent := m.system.map (·.diskUsagePercent)
  sampledAt := instantOf m.timestamp

/-- One delivery in the log. -/
structure LogEntry where
  msgId : UInt64
  time : Option Instant
  senderId : Option UInt64
  isAnnouncement : Bool
  content : String
  deriving DecidableEq

def LogEntry.ofMessage (m : FetchMsgsResponse) : LogEntry where
  msgId := m.msgId
  time := instantOf m.time
  senderId := m.senderId
  isAnnouncement := m.isAnnouncement
  content := m.content

/-- Deliveries since a time; `truncated` if there were more than are kept. -/
structure Logs where
  since : Instant
  entries : List LogEntry
  truncated : Bool
  deriving DecidableEq

/-- A role of the server. -/
structure Role where
  id : UInt64
  name : String
  description : String
  permissions : List UInt64
  deriving Repr, DecidableEq, Inhabited

def Role.ofMessage (r : ServerRole) : Role :=
  ⟨r.id, r.name, r.description, r.permissions⟩

/-- The server's configuration: the value of its document, or the text if it is none. So it can be shown
whatever the server has. -/
def configContent (raw : String) : Json.Value :=
  match Json.parse raw with
  | .ok v => v
  | .error _ => .string raw

/-- What a page shows. Printed as text or as a document, it is all that a page has to say. -/
inductive Data where
  | login (server : ServerInfo)
  | dashboard (server : ServerInfo) (serverTime : Option Instant) (pingMs : Binary64)
  | services (serverName : String) (status : ServerState)
  | monitor (data : Monitor)
  | logs (data : Logs)
  | users (roles : List Role)
  | config (content : Json.Value)

def Data.route : Data → Route
  | .login _ => .login
  | .dashboard .. => .dashboard
  | .services .. => .services
  | .monitor _ => .monitor
  | .logs _ => .logs
  | .users _ => .users
  | .config _ => .config

end AdminPanel.Page
