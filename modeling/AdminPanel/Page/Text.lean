import AdminPanel.Page.Data
import AdminPanel.Json.Printer
import AdminPanel.Text.Excerpt
import AdminPanel.Text.Padding
import AdminPanel.Time.Written

/-!
# Pages as plain text

Every page is a sequence of lines. A delivery takes one line, whatever the server sends, and a role takes one
unless its texts have line breaks in what is shown of them; long texts are cut to a preview.
-/

namespace AdminPanel.Page

open Decimal (Binary64)
open Text (padLeft padRight preview)
open Time (timeText)

/-- A length of time in days, hours and minutes, without leading units that are zero. Minutes are always
named, and the seconds beyond them are left out. -/
def uptimeText (seconds : UInt64) : String :=
  let n := seconds.toNat
  let days := n / 86400
  let hours := n % 86400 / 3600
  let minutes := n % 3600 / 60
  if 0 < days then s!"{days}d {hours}h {minutes}m"
  else if 0 < hours then s!"{hours}h {minutes}m"
  else s!"{minutes}m"

/-- A percentage with one place, or a dash. -/
def percentText : Option Binary64 → String
  | none => "-"
  | some x => Decimal.fixedPlaces 1 x ++ "%"

def line (s : String) : String := s ++ "\n"

/-- What the server tells about itself. -/
def ServerInfo.text (s : ServerInfo) : String :=
  line s!"Server:    {s.name} ({s.version})"
    ++ line s!"Status:    {s.status.name}"
    ++ line s!"HTTP port: {s.httpPort.toNat}"
    ++ line s!"Server ID: {s.uniqueIdentifier}"

def Monitor.text (m : Monitor) : String :=
  line s!"Connections:  {m.activeConnections.toNat}"
    ++ line s!"Users:        {m.totalUsers.toNat}"
    ++ line ("Messages/s:   " ++ Decimal.fixedPlaces 2 m.messagesPerSecond)
    ++ line s!"Uptime:       {uptimeText m.uptimeSeconds}"
    ++ line s!"CPU:          {percentText m.cpuUsagePercent}"
    ++ line s!"Memory:       {percentText m.memoryUsagePercent}"
    ++ line s!"Disk:         {percentText m.diskUsagePercent}"
    ++ line s!"Sampled at:   {timeText m.sampledAt}"

/-- How many characters of a delivery are shown. -/
def logPreviewWidth : Nat := 80

/-- Who sent a delivery. -/
def LogEntry.sender (e : LogEntry) : String :=
  if e.isAnnouncement then "announcement"
  else
    match e.senderId with
    | some id => toString id.toNat
    | none => "-"

/-- A text on one line: spaces for line breaks. Other control characters stay, since none of them ends a
line. -/
def oneLine (s : String) : String :=
  String.ofList (s.toList.map fun c => if c = '\n' then ' ' else c)

/-- The line of a delivery. Its columns are as wide as is usual, and wider if they must. -/
def LogEntry.text (e : LogEntry) : String :=
  -- line breaks go before the text is cut, so that they count as the spaces that are shown
  line (padLeft 8 (toString e.msgId.toNat) ++ "  " ++ timeText e.time ++ "  "
    ++ padRight 12 e.sender ++ "  " ++ preview (oneLine e.content) logPreviewWidth)

/-- The log: how much there is and since when, the deliveries, and whether there were more. -/
def Logs.text (l : Logs) : String :=
  line s!"{l.entries.length} messages since {timeText (some l.since)}"
    ++ String.join (l.entries.map LogEntry.text)
    ++ if l.truncated then line "(more messages not shown)" else ""

/-- A role with its name and its description, each cut to its column. A line break in either of them stays, so
that such a role takes more than one line. -/
def Role.text (r : Role) : String :=
  line (padLeft 4 (toString r.id.toNat) ++ "  " ++ padRight 20 (preview r.name 20) ++ "  "
    ++ preview r.description 50)

def rolesText (roles : List Role) : String :=
  if roles.isEmpty then line "No server roles" else String.join (roles.map Role.text)

/-- A configuration: its document in print, or its text. -/
def configText : Json.Value → String
  | .string raw => line raw
  | value => line value.print

/-- A page as plain text. -/
def Data.text : Data → String
  | .login server => server.text
  | .dashboard server time ping =>
    server.text ++ line s!"Time:      {timeText time}"
      ++ line ("Ping:      " ++ Decimal.fixedPlaces 1 ping ++ " ms")
  | .services name status => line s!"{name}: {status.name}"
  | .monitor data => data.text
  | .logs data => data.text
  | .users roles => rolesText roles
  | .config content => configText content

end AdminPanel.Page
