import AdminPanel.Page.Data
import AdminPanel.Rpc.Line

/-!
# Loading pages

What each page asks the server, and what it makes of the answers. The dashboard asks three things
at once and shows nothing unless all three are answered. The log reads a stream until it ends,
falls silent for longer than is waited for, or has brought one delivery more than are kept.
-/

namespace AdminPanel.Page

open Decimal (Binary64)
open Message
open Rpc (OnLine Failure unary streaming)
open Time (Instant)

/-- What a page takes from the clock: the time, and how long a call took in milliseconds. -/
structure Clock where
  now : Instant
  pingMs : Binary64
  deriving DecidableEq, Inhabited

/-- The server's information. -/
def loadServerInfo : OnLine ServerInfo := do
  return .ofResponse (← unary .getServerInfo {})

/-! ## Dashboard -/

/-- The calls of the dashboard. -/
inductive DashboardCall where
  | info
  | time
  | ping
  deriving Repr, DecidableEq

def failure? {α : Type} : Except Failure α → Option Failure
  | .error e => some e
  | .ok _ => none

/-- The results of calls that run at once: all of them, or the failure of the first to fail in the
order in which they finish. What the order does not name finishes last. -/
def joinResults {α β γ : Type} (order : List DashboardCall) (info : Except Failure α)
    (time : Except Failure β) (ping : Except Failure γ) : Except Failure (α × β × γ) :=
  let failureOf : DashboardCall → Option Failure
    | .info => failure? info
    | .time => failure? time
    | .ping => failure? ping
  match order.findSome? failureOf with
  | some e => .error e
  | none => do return (← info, ← time, ← ping)

/-- The result of a call as a value, so that what follows can go on whatever it is. -/
def attempt (r : OnLine α) : OnLine (Except Failure α) :=
  ExceptT.lift (ExceptT.run r)

/-- The data of the dashboard, when its calls finish in an order. The three calls run at once, and each goes
to a method of its own, so that the server tells them apart in whichever order they arrive. A failure gives
up the others, whose answers would not be shown. The answer to the ping holds nothing: what is shown is how
long it took. -/
def loadDashboard (order : List DashboardCall) (clock : Clock) : OnLine Data := do
  let info ← attempt (unary .getServerInfo {})
  let time ← attempt (unary .timestamp {})
  let ping ← attempt (unary .ping {})
  match joinResults order info time ping with
  | .error e => throw e
  | .ok (info, time, _) =>
    return .dashboard (.ofResponse info) (instantOf time.timestamp) clock.pingMs

/-! ## Logs -/

/-- How far the log looks back, and how many deliveries it keeps. -/
structure LogSettings where
  lookbackSeconds : Int := 24 * 3600
  maxEntries : Nat := 200
  deriving Repr, DecidableEq, Inhabited

/-- The number of deliveries that are kept. At least one is, whatever the settings say. -/
def LogSettings.kept (s : LogSettings) : Nat := max s.maxEntries 1

/-- The time that lies some seconds before another, or the same time if there is none so early. -/
def secondsBefore (t : Instant) (seconds : Int) : Instant :=
  (Instant.ofParts? (t.seconds - seconds) t.nanos).getD t

/-- Reads deliveries, at most `room` of them, and whether there were more. A delivery behind those that are
kept is still read, so that the log fails if it cannot be, and what follows it is not looked at: neither the
other deliveries nor the status at the end. -/
def readEntries (ending : Rpc.Ending) : Nat → List (List UInt8) → OnLine (List LogEntry × Bool)
  | _, [] => do
    Rpc.close ending
    return ([], false)
  | 0, body :: _ => do
    -- one more than are kept: it is read for its own sake, and the stream is given up
    let _ ← Rpc.readBody .fetchMsgs body
    return ([], true)
  | room + 1, body :: bodies => do
    let entry := LogEntry.ofMessage (← Rpc.readBody .fetchMsgs body)
    let (entries, truncated) ← readEntries ending room bodies
    return (entry :: entries, truncated)

/-- The deliveries since a time, as far back as the settings say. What has been asked for is shown with
them. -/
def loadLogs (settings : LogSettings) (now : Instant) : OnLine Logs := do
  let since := secondsBefore now settings.lookbackSeconds
  let (bodies, ending) ← streaming .fetchMsgs { time := some (.ofInstant since) }
  let (entries, truncated) ← readEntries ending settings.kept bodies
  return { since, entries, truncated }

/-! ## Views -/

/-- How many roles are asked for. -/
def rolePageSize : UInt64 := 100

/-- The text of the server's configuration, whatever it is. -/
def loadConfigText : OnLine String := do
  return (← unary .getConfig {}).content

/-- What is built for a page when a navigation reaches it. Only the log has settings of its own. -/
inductive View where
  | login
  | dashboard
  | services
  | monitor
  | logs (settings : LogSettings)
  | users
  | config
  deriving Repr, DecidableEq

namespace View

/-- The page that a view is of. -/
def route : View → Route
  | .login => .login
  | .dashboard => .dashboard
  | .services => .services
  | .monitor => .monitor
  | .logs _ => .logs
  | .users => .users
  | .config => .config

/-- Asks the server for what a view shows. Most views make one call; the dashboard makes three, and the log
reads a stream. What the server leaves out is shown as absent, or as nothing where nothing is usual. -/
def load (clock : Clock) : View → OnLine Data
  | .login => do return .login (← loadServerInfo)
  | .dashboard => loadDashboard [] clock
  | .services => do
    let info ← unary .getServerInfo {}
    return .services info.serverName (.ofCode info.status)
  | .monitor => do
    let response ← unary .getMonitoringMetrics
      { includeSystemMetrics := true, includeTokioMetrics := false }
    return .monitor ((response.metrics.map Monitor.ofMetrics).getD {})
  | .logs settings => do return .logs (← loadLogs settings clock.now)
  | .users => do
    let response ← unary .listServerRoles { pageSize := rolePageSize }
    return .users (response.roles.map Role.ofMessage)
  | .config => do return .config (configContent (← loadConfigText))

end View

/-! ## All pages -/

/-- An entry of the list of pages: a page, its path, and the view that is built for it. -/
structure Entry where
  route : Route
  path : String
  view : View

/-- The list of pages. -/
def entries : List Entry := [
  ⟨.login, "/login", .login⟩,
  ⟨.dashboard, "/", .dashboard⟩,
  ⟨.services, "/services", .services⟩,
  ⟨.monitor, "/monitor", .monitor⟩,
  ⟨.logs, "/logs", .logs {}⟩,
  ⟨.users, "/users", .users⟩,
  ⟨.config, "/config", .config⟩]

/-- The entry of a page, by the place that the page has in the order of their declaration. -/
def entryOf (r : Route) : Entry :=
  entries.get ⟨r.ctorIdx, by cases r <;> decide⟩

@[simp] theorem entryOf_route (r : Route) : (entryOf r).route = r := by
  cases r <;> rfl

@[simp] theorem entryOf_path (r : Route) : (entryOf r).path = r.path := by
  cases r <;> rfl

/-- The view that is built for a page. -/
def viewOf (r : Route) : View := (entryOf r).view

@[simp] theorem viewOf_route (r : Route) : (viewOf r).route = r := by
  cases r <;> rfl

/-- What a page loads, by its view. -/
def load (clock : Clock) (r : Route) : OnLine Data := (viewOf r).load clock

end AdminPanel.Page
