import AdminPanel.Text.Blank
import AdminPanel.Text.Quoted

/-!
# Routes

The pages of the panel, their paths and titles, and the path texts that lead to them. A path text
may have blanks around it, may lack its leading slash, may end in slashes, and may carry a query or
a fragment, which do not count.
-/

namespace AdminPanel

open Text (isBlank trimChars trimEndOf)

/-- The pages. -/
inductive Route where
  | login
  | dashboard
  | services
  | monitor
  | logs
  | users
  | config
  deriving Repr, DecidableEq, Inhabited

namespace Route

/-- The pages in the order in which they are listed. -/
def all : List Route := [login, dashboard, services, monitor, logs, users, config]

def name : Route → String
  | .login => "login"
  | .dashboard => "dashboard"
  | .services => "services"
  | .monitor => "monitor"
  | .logs => "logs"
  | .users => "users"
  | .config => "config"

def path : Route → String
  | .login => "/login"
  | .dashboard => "/"
  | .services => "/services"
  | .monitor => "/monitor"
  | .logs => "/logs"
  | .users => "/users"
  | .config => "/config"

/-- The title of a page in listings. -/
def title : Route → String
  | .login => "Login"
  | .dashboard => "Dashboard"
  | .services => "Services"
  | .monitor => "Monitor"
  | .logs => "Logs"
  | .users => "Users"
  | .config => "Server Config"

/-- Every page but the login page needs a session. -/
def needsSession (r : Route) : Bool :=
  r != .login

def ofName? (s : String) : Option Route :=
  all.find? fun r => r.name == s

/-- The name of a page in listings. -/
def variant (r : Route) : String :=
  -- the names are ASCII, and only their first letter changes
  match r.name.toList with
  | [] => ""
  | c :: cs => String.ofList (c.toUpper :: cs)

/-- The entry of a page in the table of routes. -/
def listing (r : Route) : String :=
  "Route \x7b name: " ++ r.variant ++ ", path: " ++ Text.quoted r.path ++ ", .. \x7d"

/-- The end of the path proper: a query or a fragment starts here. -/
def endsPath (c : Char) : Bool := c == '?' || c == '#'

/-- The path text without query, fragment, blanks and slashes at its end, and without the one slash
in front of it. The order matters: the query goes first, then blanks, and slashes last, so that a blank in
front of a slash at the end stays. -/
def strip (cs : List Char) : List Char :=
  let trimmed := trimEndOf (· == '/') (trimChars (cs.takeWhile fun c => !endsPath c))
  -- of several slashes in front only one goes
  match trimmed with
  | '/' :: rest => rest
  | other => other

/-- The page that a path text leads to: the one whose own path leaves the same. Letters count as they are, and
nothing is decoded. -/
def resolve (s : String) : Option Route :=
  all.find? fun r => strip r.path.toList == strip s.toList

@[simp] theorem resolve_path (r : Route) : resolve r.path = some r := by
  cases r <;> decide +kernel

end Route

end AdminPanel
