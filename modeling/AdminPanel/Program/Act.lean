import AdminPanel.CommandLine.Command
import AdminPanel.Page.Document
import AdminPanel.Page.Text
import AdminPanel.Panel
import AdminPanel.Program.Fault
import AdminPanel.Program.Host

/-!
# Doing commands

Every command but those that need no session goes to the page it belongs to first, so that the
guard decides whether it may be done at all. Nothing is read or sent before that.
-/

namespace AdminPanel.Program

open Rpc (OnLine Line)

/-- A panel, and what has been written and logged so far. -/
structure State where
  panel : Panel
  stdout : String := ""
  stderr : String := ""
  log : List Warning := []

/-- What is done on a panel, with output, and may fail. -/
abbrev Act := ExceptT Fault (StateM State)

/-! ## Steps -/

/-- Writes to the output. -/
def say (text : String) : Act Unit :=
  modify fun s => { s with stdout := s.stdout ++ text }

/-- Writes a line to the output. -/
def sayLine (text : String) : Act Unit := say (text ++ "\n")

/-- Writes a line to the error output. -/
def warn (text : String) : Act Unit :=
  modify fun s => { s with stderr := s.stderr ++ text ++ "\n" }

/-- Does something on the line of the panel. A failure ends the command; what has happened on the line by then
has happened. -/
def onLine (ofFault : ε → Fault) (act : ExceptT ε (StateM Line) α) : Act α := do
  let s ← get
  let (result, panel) := s.panel.onLine act
  set { s with panel := panel }
  match result with
  | .ok a => pure a
  | .error e => throw (ofFault e)

def call (act : OnLine α) : Act α := onLine .rpc act

/-- What a navigation to a path logs: that the storage cannot be read, where that is why the guard has sent the
user away. -/
def navigationWarnings (store : Storage.Store) (path : String) : List Warning :=
  ((Guard.unread? store (Route.resolve path)).map .unreadableSession).toList

/-- Goes to a page, as a command does that belongs to it; without a session the command ends here. The login
page is the current one then, as after any redirection. -/
def enter (route : Route) : Act Unit := do
  let s ← get
  let (result, panel) := s.panel.navigate route.path
  set { s with
    panel := panel
    log := s.log ++ navigationWarnings s.panel.line.store route.path }
  match result with
  | .error e => throw (.navigation e)
  | .ok (.allowed _) => pure ()
  | .ok (.redirected requested _) => throw (.notLoggedIn requested)

/-! ## The session -/

def passwordVariable : String := "OCPANEL_PASSWORD"

def accountPrompt : String := "Account (OCID or email): "

/-- The account of a login: the one given, or the one of the last login, or what is typed. Only what is typed
is asked for, in the output. -/
def accountOf (host : Host) (settings : Settings) (given : Option String) : Act String :=
  match given <|> settings.lastAccount with
  | some account => pure account
  | none => do
    say accountPrompt
    return host.typedLine

/-- The password of a login: that of the environment, unless it is empty, or what is typed. What is typed
may be empty, and is then refused by the login itself. There is none if there is no terminal to type it
at. -/
def password? (host : Host) : Option String :=
  ((host.environment.get? passwordVariable).filter fun password => !password.isEmpty)
    <|> host.typedPassword

/-- Finds out the password of a login. It is asked for at the terminal, so that nothing of the question
stands in the output; without a terminal the command ends here. -/
def passwordOf (host : Host) : Act String :=
  match password? host with
  | some password => pure password
  | none => throw .noTerminal

/-- Records a login in the settings file, and nothing else. The settings are read again for it, so that what
steers this run does not get there; a file that cannot be read counts as one with the default settings. A
file that cannot be written is left as it is, and the login stands nevertheless. -/
def recordLogin (host : Host) (account : String) : Act Unit :=
  modify fun s =>
    let store := s.panel.line.store
    let saved := match Settings.load store.files host.settingsPath with
      | .ok settings => settings
      | .error _ => {}
    match (saved.rememberLogin account host.clock.now).save store.files host.settingsPath with
    | .ok files =>
      { s with panel.line.store := { store with files := files } }
    | .error e => { s with log := s.log ++ [.unsavedSettings e] }

/-- Logs in: finds out an account and a password, exchanges them for a token, and records who has logged in.
The login stands from the moment at which the token is stored. -/
def login (host : Host) (settings : Settings) (given : Option String) : Act Unit := do
  enter .login
  let account ← accountOf host settings given
  let password ← passwordOf host
  let user ← onLine .login (Page.login account password)
  recordLogin host (Text.trim account)
  sayLine s!"Logged in as {Text.trim account} (user id {user.toNat})"

/-- Logs out. -/
def logout : Act Unit := do
  onLine .clearToken Page.logout
  sayLine "Logged out"

/-- Shows how the panel is set up. Of the token it shows that there is one. The server is not asked. -/
def showStatus (settings : Settings) : Act Unit := do
  match Session.token (← get).panel.line.store with
  | .error e => throw (.readToken e)
  | .ok token => do
    sayLine ("Server:     " ++ settings.baseAddress)
    sayLine ("Storage:    " ++ settings.backend.name)
    sayLine ("Session:    " ++ if token.isSome then "logged in" else "logged out")
    match settings.lastAccount with
    | none => pure ()
    | some account =>
      sayLine s!"Last login: {account} at {Time.timeText settings.lastLogin}"

/-! ## Pages -/

/-- The line of a page in the list of pages. -/
def routeLine (r : Route) : String :=
  Text.padRight 10 r.path ++ " " ++ Text.padRight 10 r.name ++ " "
    ++ Text.padRight 8 (if r.needsSession then "session" else "public") ++ " " ++ r.title ++ "\n"

/-- Opens a page and shows what it loads. Without a session another page is shown than was asked for, and the
error output says so; this is no failure. -/
def openPage (host : Host) (path : String) (json : Bool) : Act Unit := do
  let s ← get
  let (result, panel) := s.panel.openPage path
  set { s with panel := panel, log := s.log ++ navigationWarnings s.panel.line.store path }
  match result with
  | .error e => throw (.navigation e)
  | .ok n => do
    match n with
    | .allowed _ => pure ()
    | .redirected requested landing =>
      warn s!"{requested} requires a session, showing {landing.name} instead"
    let data ← call (Page.load host.clock n.route)
    if json then sayLine data.value.print else say data.text

/-! ## Actions -/

/-- Bans a user, and says for how long. -/
def ban (userId : UInt64) (seconds : Option UInt64) (reason : Option String) : Act Unit := do
  enter .users
  call (Page.ban userId (seconds.map fun n => .ofSeconds n 0) reason)
  match seconds with
  | some n => sayLine s!"User {userId.toNat} banned for {n.toNat}s"
  | none => sayLine s!"User {userId.toNat} banned"

/-- Replaces the configuration of the server by a file. The guard is asked before the file is read, so that
without a session nobody learns whether there is one. -/
def setConfig (host : Host) (file : String) : Act Unit := do
  enter .config
  let files := (← get).panel.line.store.files
  match files.readText (FileTree.pathOf host.directory file) with
  | .error e => throw (.readFile file e)
  | .ok content => do
    call (Page.setConfig content)
    sayLine ("Server config updated from " ++ file)

/-- Does a command. Those that change something on the server go to the page that they belong to first. -/
def act (host : Host) (settings : Settings) : Command → Act Unit
  | .login account => login host settings account
  | .logout => logout
  | .status => showStatus settings
  | .routes => say (String.join (Route.all.map routeLine))
  | .openPage path json => openPage host path json
  | .setStatus status reason => do
    enter .services
    call (Page.setStatus status reason)
    sayLine ("Server status set to " ++ status.name)
  | .ban userId seconds reason => ban userId seconds reason
  | .unban userId => do
    enter .users
    call (Page.unban userId)
    sayLine s!"User {userId.toNat} unbanned"
  | .deleteAccount userId => do
    enter .users
    call (Page.deleteAccount userId)
    sayLine s!"Account {userId.toNat} deleted"
  | .announce title content => do
    enter .services
    let id ← call (Page.announce title content)
    sayLine s!"Announcement {id.toNat} published"
  | .getConfig => do
    enter .config
    sayLine (← call Page.loadConfigText)
  | .setConfig file => setConfig host file

end AdminPanel.Program
