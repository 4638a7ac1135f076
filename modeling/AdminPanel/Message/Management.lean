import AdminPanel.Message.Server

/-!
# Administration

Requests that change the server, its users and its configuration, or that measure it.
-/

namespace AdminPanel.Message

open Wire (Layout)
open Decimal (Binary64)

/-- Switches the running state. -/
structure SetServerStatusRequest where
  serverStatus : Int32 := 0
  reason : String := ""
  deriving Repr, DecidableEq, Inhabited

/-- The layout of `SetServerStatusRequest`. -/
def SetServerStatusRequest.layout : Layout SetServerStatusRequest :=
  .mk "SetServerStatusRequest" {} <|
  .cons 1 "server_status" (.scalar (.enumeration RunningStatus.names)) (·.serverStatus)
    (fun v m => { m with serverStatus := v }) <|
  .cons 2 "reason" (.scalar .string) (·.reason) (fun v m => { m with reason := v }) <|
  .nil

/-- The running state is switched. -/
structure SetServerStatusResponse where
  deriving Repr, DecidableEq, Inhabited

/-- The layout of `SetServerStatusResponse`. -/
def SetServerStatusResponse.layout : Layout SetServerStatusResponse :=
  .mk "SetServerStatusResponse" {} .nil

/-- Asks for the configuration. -/
structure GetConfigRequest where
  deriving Repr, DecidableEq, Inhabited

def GetConfigRequest.layout : Layout GetConfigRequest :=
  .mk "GetConfigRequest" {} .nil

/-- The configuration as text. -/
structure GetConfigResponse where
  content : String := ""
  deriving Repr, DecidableEq, Inhabited

def GetConfigResponse.layout : Layout GetConfigResponse :=
  .mk "GetConfigResponse" {} <|
  .cons 1 "content" (.scalar .string) (·.content) (fun v m => { m with content := v }) <|
  .nil

/-- Replaces the configuration. -/
structure SetConfigRequest where
  content : String := ""
  deriving Repr, DecidableEq, Inhabited

def SetConfigRequest.layout : Layout SetConfigRequest :=
  .mk "SetConfigRequest" {} <|
  .cons 1 "content" (.scalar .string) (·.content) (fun v m => { m with content := v }) <|
  .nil

/-- The configuration is replaced. -/
structure SetConfigResponse where
  deriving Repr, DecidableEq, Inhabited

def SetConfigResponse.layout : Layout SetConfigResponse :=
  .mk "SetConfigResponse" {} .nil

/-- Bans a user; without a duration, for good. -/
structure BanUserRequest where
  userId : UInt64 := 0
  reason : Option String := none
  duration : Option Duration := none
  deriving Repr, DecidableEq, Inhabited

def BanUserRequest.layout : Layout BanUserRequest :=
  .mk "BanUserRequest" {} <|
  .cons 1 "user_id" (.scalar .uint64) (·.userId) (fun v m => { m with userId := v }) <|
  .cons 2 "reason" (.optional .string) (·.reason) (fun v m => { m with reason := v }) <|
  .cons 3 "duration" (.message Duration.layout) (·.duration)
    (fun v m => { m with duration := v }) <|
  .nil

/-- The user is banned. -/
structure BanUserResponse where
  deriving Repr, DecidableEq, Inhabited

def BanUserResponse.layout : Layout BanUserResponse :=
  .mk "BanUserResponse" {} .nil

/-- Lifts a ban. -/
structure UnbanUserRequest where
  userId : UInt64 := 0
  deriving Repr, DecidableEq, Inhabited

def UnbanUserRequest.layout : Layout UnbanUserRequest :=
  .mk "UnbanUserRequest" {} <|
  .cons 1 "user_id" (.scalar .uint64) (·.userId) (fun v m => { m with userId := v }) <|
  .nil

/-- The ban is lifted. -/
structure UnbanUserResponse where
  deriving Repr, DecidableEq, Inhabited

def UnbanUserResponse.layout : Layout UnbanUserResponse :=
  .mk "UnbanUserResponse" {} .nil

/-- Deletes the account of a user. -/
structure DeleteAccountRequest where
  userId : UInt64 := 0
  deriving Repr, DecidableEq, Inhabited

def DeleteAccountRequest.layout : Layout DeleteAccountRequest :=
  .mk "DeleteAccountRequest" {} <|
  .cons 1 "user_id" (.scalar .uint64) (·.userId) (fun v m => { m with userId := v }) <|
  .nil

/-- The account is deleted. -/
structure DeleteAccountResponse where
  deriving Repr, DecidableEq, Inhabited

def DeleteAccountResponse.layout : Layout DeleteAccountResponse :=
  .mk "DeleteAccountResponse" {} .nil

/-- A text for all users, and who publishes it. -/
structure Announcement where
  title : String := ""
  content : String := ""
  publisherId : UInt64 := 0
  deriving Repr, DecidableEq, Inhabited

def Announcement.layout : Layout Announcement :=
  .mk "Announcement" {} <|
  .cons 1 "title" (.scalar .string) (·.title) (fun v m => { m with title := v }) <|
  .cons 2 "content" (.scalar .string) (·.content) (fun v m => { m with content := v }) <|
  .cons 3 "publisher_id" (.scalar .uint64) (·.publisherId)
    (fun v m => { m with publisherId := v }) <|
  .nil

/-- Publishes an announcement. -/
structure PublishAnnouncementRequest where
  announcement : Option Announcement := none
  deriving Repr, DecidableEq, Inhabited

def PublishAnnouncementRequest.layout : Layout PublishAnnouncementRequest :=
  .mk "PublishAnnouncementRequest" {} <|
  .cons 1 "announcement" (.message Announcement.layout) (·.announcement)
    (fun v m => { m with announcement := v }) <|
  .nil

/-- The number of the announcement. -/
structure PublishAnnouncementResponse where
  id : UInt64 := 0
  deriving Repr, DecidableEq, Inhabited

def PublishAnnouncementResponse.layout : Layout PublishAnnouncementResponse :=
  .mk "PublishAnnouncementResponse" {} <|
  .cons 1 "id" (.scalar .uint64) (·.id) (fun v m => { m with id := v }) <|
  .nil

/-- Asks for measurements. -/
structure GetMonitoringMetricsRequest where
  includeSystemMetrics : Bool := false
  includeTokioMetrics : Bool := false
  deriving Repr, DecidableEq, Inhabited

/-- The layout of `GetMonitoringMetricsRequest`. -/
def GetMonitoringMetricsRequest.layout : Layout GetMonitoringMetricsRequest :=
  .mk "GetMonitoringMetricsRequest" {} <|
  .cons 1 "include_system_metrics" (.scalar .bool) (·.includeSystemMetrics)
    (fun v m => { m with includeSystemMetrics := v }) <|
  .cons 2 "include_tokio_metrics" (.scalar .bool) (·.includeTokioMetrics)
    (fun v m => { m with includeTokioMetrics := v }) <|
  .nil

/-- Measurements of the machine, in percent. -/
structure SystemMetrics where
  cpuUsagePercent : Binary64 := .zero
  memoryUsagePercent : Binary64 := .zero
  diskUsagePercent : Binary64 := .zero
  deriving Repr, DecidableEq, Inhabited

def SystemMetrics.layout : Layout SystemMetrics :=
  .mk "SystemMetrics" {} <|
  .cons 1 "cpu_usage_percent" (.scalar .double) (·.cpuUsagePercent)
    (fun v m => { m with cpuUsagePercent := v }) <|
  .cons 2 "memory_usage_percent" (.scalar .double) (·.memoryUsagePercent)
    (fun v m => { m with memoryUsagePercent := v }) <|
  .cons 3 "disk_usage_percent" (.scalar .double) (·.diskUsagePercent)
    (fun v m => { m with diskUsagePercent := v }) <|
  .nil

/-- Measurements of the server. -/
structure MonitoringMetrics where
  activeConnections : UInt64 := 0
  totalUsers : UInt64 := 0
  messagesPerSecond : Binary64 := .zero
  uptimeSeconds : UInt64 := 0
  system : Option SystemMetrics := none
  timestamp : Option Timestamp := none
  deriving Repr, DecidableEq, Inhabited

def MonitoringMetrics.layout : Layout MonitoringMetrics :=
  .mk "MonitoringMetrics" {} <|
  .cons 1 "active_connections" (.scalar .uint64) (·.activeConnections)
    (fun v m => { m with activeConnections := v }) <|
  .cons 2 "total_users" (.scalar .uint64) (·.totalUsers) (fun v m => { m with totalUsers := v }) <|
  .cons 3 "messages_per_second" (.scalar .double) (·.messagesPerSecond)
    (fun v m => { m with messagesPerSecond := v }) <|
  .cons 4 "uptime_seconds" (.scalar .uint64) (·.uptimeSeconds)
    (fun v m => { m with uptimeSeconds := v }) <|
  .cons 5 "system" (.message SystemMetrics.layout) (·.system) (fun v m => { m with system := v }) <|
  .cons 6 "timestamp" (.message Timestamp.layout) (·.timestamp)
    (fun v m => { m with timestamp := v }) <|
  .nil

/-- Measurements, if the server takes any. -/
structure GetMonitoringMetricsResponse where
  metrics : Option MonitoringMetrics := none
  deriving Repr, DecidableEq, Inhabited

/-- The layout of `GetMonitoringMetricsResponse`. -/
def GetMonitoringMetricsResponse.layout : Layout GetMonitoringMetricsResponse :=
  .mk "GetMonitoringMetricsResponse" {} <|
  .cons 1 "metrics" (.message MonitoringMetrics.layout) (·.metrics)
    (fun v m => { m with metrics := v }) <|
  .nil

/-- Asks for the roles of the server. -/
structure ListServerRolesRequest where
  pageSize : UInt64 := 0
  deriving Repr, DecidableEq, Inhabited

/-- The layout of `ListServerRolesRequest`. -/
def ListServerRolesRequest.layout : Layout ListServerRolesRequest :=
  .mk "ListServerRolesRequest" {} <|
  .cons 1 "page_size" (.scalar .uint64) (·.pageSize) (fun v m => { m with pageSize := v }) <|
  .nil

/-- A role and what it permits. -/
structure ServerRole where
  id : UInt64 := 0
  name : String := ""
  description : String := ""
  permissions : List UInt64 := []
  deriving Repr, DecidableEq, Inhabited

def ServerRole.layout : Layout ServerRole :=
  .mk "ServerRole" {} <|
  .cons 1 "id" (.scalar .uint64) (·.id) (fun v m => { m with id := v }) <|
  .cons 2 "name" (.scalar .string) (·.name) (fun v m => { m with name := v }) <|
  .cons 3 "description" (.scalar .string) (·.description)
    (fun v m => { m with description := v }) <|
  .cons 4 "permissions" (.packed) (·.permissions) (fun v m => { m with permissions := v }) <|
  .nil

/-- The roles of the server. -/
structure ListServerRolesResponse where
  roles : List ServerRole := []
  deriving Repr, DecidableEq, Inhabited

/-- The layout of `ListServerRolesResponse`. -/
def ListServerRolesResponse.layout : Layout ListServerRolesResponse :=
  .mk "ListServerRolesResponse" {} <|
  .cons 1 "roles" (.repeated ServerRole.layout) (·.roles) (fun v m => { m with roles := v }) <|
  .nil

end AdminPanel.Message
