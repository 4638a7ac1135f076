import AdminPanel.Page.Data
import AdminPanel.Time.Written

/-!
# Pages as documents

The data of a page as a JSON object, which names the page in its first member.
-/

namespace AdminPanel.Page

open Json (Value)
open Time (Instant)

def timeValue (t : Instant) : Value := .string t.rfc3339

/-- What the server tells about itself. -/
def ServerInfo.value (s : ServerInfo) : Value := .object [
  ("name", .string s.name),
  ("version", .string s.version),
  ("http_port", .nat s.httpPort.toNat),
  ("status", .string s.status.name),
  ("unique_identifier", .string s.uniqueIdentifier)]

def Monitor.members (m : Monitor) : List (String × Value) := [
  ("active_connections", .nat m.activeConnections.toNat),
  ("total_users", .nat m.totalUsers.toNat),
  ("messages_per_second", .real m.messagesPerSecond),
  ("uptime_seconds", .nat m.uptimeSeconds.toNat),
  ("cpu_usage_percent", .option .real m.cpuUsagePercent),
  ("memory_usage_percent", .option .real m.memoryUsagePercent),
  ("disk_usage_percent", .option .real m.diskUsagePercent),
  ("sampled_at", .option timeValue m.sampledAt)]

def LogEntry.value (e : LogEntry) : Value := .object [
  ("msg_id", .nat e.msgId.toNat),
  ("time", .option timeValue e.time),
  ("sender_id", .option (fun n => .nat n.toNat) e.senderId),
  ("is_announcement", .bool e.isAnnouncement),
  ("content", .string e.content)]

def Logs.members (l : Logs) : List (String × Value) := [
  ("since", timeValue l.since),
  ("entries", .array (l.entries.map LogEntry.value)),
  ("truncated", .bool l.truncated)]

def Role.value (r : Role) : Value := .object [
  ("id", .nat r.id.toNat),
  ("name", .string r.name),
  ("description", .string r.description),
  ("permissions", .array (r.permissions.map fun n => .nat n.toNat))]

def Data.members : Data → List (String × Value)
  | .login server => [("server", server.value)]
  | .dashboard server time ping =>
    [("server", server.value), ("server_time", .option timeValue time), ("ping_ms", .real ping)]
  | .services name status => [("server_name", .string name), ("status", .string status.name)]
  | .monitor data => data.members
  | .logs data => data.members
  | .users roles => [("roles", .array (roles.map Role.value))]
  | .config content => [("content", content)]

/-- A page as a document: an object that names the page first, and then holds its data. Numbers that no
document can hold are null, and so is what is absent. -/
def Data.value (d : Data) : Value :=
  .object (("view", .string d.route.name) :: d.members)

end AdminPanel.Page
