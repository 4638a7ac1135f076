import AdminPanel.Page.Action
import AdminPanel.Navigation.Router

/-!
# The panel

A panel is a line to the server, the current page, and the view that was opened last. Everything
that is done with it is a step; a step gives an answer or fails, and leaves the panel that the next
step starts from.
-/

namespace AdminPanel

open Rpc (Line Headers)
open Page (Clock)

/-- A line, the current page, and the view that was built last. -/
structure Panel where
  line : Line
  current : Option Route := none
  opened : Option Page.View := none

namespace Panel

/-- What can be done. -/
inductive Step where
  | token
  | setToken (token : String)
  | clearToken
  | isAuthenticated
  | getItem (name : String)
  | setItem (name value : String)
  | removeItem (name : String)
  | files (change : FileTree → Except FileFault FileTree)
  | guard (target : Option Route)
  | navigate (path : String)
  | openPage (path : String)
  | load
  | attach (headers : Headers)
  | login (account password : String)
  | logout
  | setStatus (status : Message.RunningStatus) (reason : String)
  | announce (title content : String)
  | ban (userId : UInt64) (duration : Option Message.Duration) (reason : Option String)
  | unban (userId : UInt64)
  | deleteAccount (userId : UInt64)
  | configText
  | setConfig (content : String)
  | fetchLogs (settings : Page.LogSettings)

/-- What a step gives. -/
inductive Answer where
  | done
  | text (text : Option String)
  | flag (value : Bool)
  | decision (decision : Guard.Decision)
  | navigation (navigation : Navigation)
  | page (data : Page.Data)
  | headers (headers : Headers)
  | number (value : UInt64)
  | logs (logs : Page.Logs)

/-- Why a step fails. -/
inductive Fault where
  | storage (fault : Storage.Fault)
  | rpc (failure : Rpc.Failure)
  | navigation (fault : Navigation.Fault)
  | login (fault : Page.LoginFault)
  | status (status : Rpc.Status)
  | file (fault : FileFault)
  /-- There is nothing to load before a page is opened. -/
  | nothingOpened
  deriving Repr, DecidableEq

/-- Does something on the line of the panel. -/
def onLine (p : Panel) (act : ExceptT ε (StateM Line) α) : Except ε α × Panel :=
  let (result, line) := (ExceptT.run act).run p.line
  (result, { p with line := line })

def answer (ofValue : α → Answer) (ofFault : ε → Fault) (r : Except ε α × Panel) :
    Except Fault Answer × Panel :=
  match r with
  | (.ok a, p) => (.ok (ofValue a), p)
  | (.error e, p) => (.error (ofFault e), p)

/-- Replaces the store of the panel by the result of an operation on it. -/
def onStore (p : Panel) (r : Except Storage.Fault Storage.Store) : Except Fault Answer × Panel :=
  match r with
  | .ok store => (.ok .done, { p with line := { p.line with store := store } })
  | .error e => (.error (.storage e), p)

def readStore (p : Panel) (r : Except Storage.Fault (Option String)) :
    Except Fault Answer × Panel :=
  match r with
  | .ok t => (.ok (.text t), p)
  | .error e => (.error (.storage e), p)

def navigate (p : Panel) (path : String) : Except Navigation.Fault Navigation × Panel :=
  let result := Navigation.go p.line.store path
  (result, { p with current := Navigation.currentAfter p.current result })

/-- Goes to a path and builds the view of the page that is reached, which need not be the one asked for. -/
def openPage (p : Panel) (path : String) : Except Navigation.Fault Navigation × Panel :=
  match p.navigate path with
  | (.ok n, p) => (.ok n, { p with opened := some (Page.viewOf n.route) })
  | (.error e, p) => (.error e, p)

def step (clock : Clock) (p : Panel) : Step → Except Fault Answer × Panel
  | .token => p.readStore (Session.token p.line.store)
  | .setToken t => p.onStore (Session.start p.line.store t)
  | .clearToken => p.onStore (Session.finish p.line.store)
  | .isAuthenticated => (.ok (.flag (Session.isOpen p.line.store)), p)
  | .getItem name => p.readStore (p.line.store.get name)
  | .setItem name value => p.onStore (p.line.store.set name value)
  | .removeItem name => p.onStore (p.line.store.remove name)
  | .files change =>
    match change p.line.store.files with
    | .ok files =>
      (.ok .done, { p with line := { p.line with store := { p.line.store with files := files } } })
    | .error e => (.error (.file e), p)
  | .guard target => (.ok (.decision (Guard.decide p.line.store target)), p)
  | .navigate path => answer .navigation .navigation (p.navigate path)
  | .openPage path => answer .navigation .navigation (p.openPage path)
  | .load =>
    match p.opened with
    | none => (.error .nothingOpened, p)
    | some view => answer .page .rpc (p.onLine (view.load clock))
  | .attach headers =>
    match Rpc.Outgoing.attach p.line.store ⟨headers, ()⟩ with
    | .ok r => (.ok (.headers r.headers), p)
    | .error s => (.error (.status s), p)
  | .login account password => answer .number .login (p.onLine (Page.login account password))
  | .logout => answer (fun _ => .done) .storage (p.onLine Page.logout)
  | .setStatus status reason =>
    answer (fun _ => .done) .rpc (p.onLine (Page.setStatus status reason))
  | .announce title content => answer .number .rpc (p.onLine (Page.announce title content))
  | .ban user duration reason =>
    answer (fun _ => .done) .rpc (p.onLine (Page.ban user duration reason))
  | .unban user => answer (fun _ => .done) .rpc (p.onLine (Page.unban user))
  | .deleteAccount user => answer (fun _ => .done) .rpc (p.onLine (Page.deleteAccount user))
  | .configText => answer (fun t => .text (some t)) .rpc (p.onLine Page.loadConfigText)
  | .setConfig content => answer (fun _ => .done) .rpc (p.onLine (Page.setConfig content))
  | .fetchLogs settings => answer .logs .rpc (p.onLine (Page.loadLogs settings clock.now))

/-- Does steps one after the other. -/
def run (clock : Clock) (p : Panel) : List Step → List (Except Fault Answer) × Panel
  | [] => ([], p)
  | s :: rest =>
    let (a, p) := p.step clock s
    let (as, p) := p.run clock rest
    (a :: as, p)

end Panel

end AdminPanel
