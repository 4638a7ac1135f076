import AdminPanel.Settings.Backend
import AdminPanel.Storage.Store
import AdminPanel.Time.Instant

/-!
# Settings

What the panel remembers between runs: the address of the server, where the session token is kept,
the account that logged in last and when, and a directory for logs.
-/

namespace AdminPanel

open Storage (Store)

/-- The settings, with the defaults of a panel that nobody has set up. -/
structure Settings where
  baseAddress : String := "http://127.0.0.1:7777/backend"
  backend : Backend := .file
  lastAccount : Option String := none
  lastLogin : Option Time.Instant := none
  logDir : Option String := none
  deriving DecidableEq, Inhabited

namespace Settings

/-- The environment variable that replaces the address. -/
def addressVariable : String := "OCPANEL_BASE_ADDRESS"

/-- Takes the address from the environment, unless it is unset or blank there. Blanks around it are taken away;
the address of the file keeps its own. -/
def applyEnvironment (s : Settings) (value : Option String) : Settings :=
  match value.map Text.trim with
  | none => s
  | some address => if address.isEmpty then s else { s with baseAddress := address }

/-- Remembers who has logged in last, and when. Nothing else changes. -/
def rememberLogin (s : Settings) (account : String) (now : Time.Instant) : Settings :=
  { s with lastAccount := some account, lastLogin := some now }

/-- The storage that the settings name; a file storage lives at the given path. -/
def openStore (s : Settings) (path : FilePath) (files : FileTree) : Store :=
  match s.backend with
  | .file => ⟨.file path, files⟩
  | .keyring => ⟨.keychain, files⟩
  | .memory => ⟨.memory [], files⟩

end Settings

end AdminPanel
