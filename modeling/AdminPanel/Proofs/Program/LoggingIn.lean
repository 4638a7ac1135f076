import AdminPanel.Proofs.Page.Login
import AdminPanel.Proofs.Program.Doing
import AdminPanel.Proofs.Settings.Standing
import AdminPanel.Proofs.Text.Trimming

/-!
# The login command

What the command does, as one equation (`runAct_login`): it finds out an account and a password, logs in
on the line of the panel, and if that succeeds it records the account in the settings file and says so.
Of the account only the text without blanks at its ends counts (`login_trim`).
-/

namespace AdminPanel.Program

open Rpc
open Storage (Store)

variable {host : Host} {settings : Settings}

/-- The account of a login: the one given, or the one of the last login, or what is typed. -/
def accountText (host : Host) (settings : Settings) (given : Option String) : String :=
  (given <|> settings.lastAccount).getD host.typedLine

/-- What is written before an account is typed. -/
def prompt (settings : Settings) (given : Option String) : String :=
  if (given <|> settings.lastAccount).isSome then "" else accountPrompt

/-- The files after a login has been recorded, unless they cannot be written. -/
def saving (host : Host) (account : String) (store : Store) : Except FileFault FileTree :=
  ((Settings.onDisk store.files host.settingsPath).rememberLogin account host.clock.now).save
    store.files host.settingsPath

/-- The storage after a login has been recorded in the files around it. -/
def recorded (host : Host) (account : String) (store : Store) : Store :=
  match saving host account store with
  | .ok files => { store with files := files }
  | .error _ => store

/-- What the recording of a login logs. -/
def recordingWarnings (host : Host) (account : String) (store : Store) : List Warning :=
  match saving host account store with
  | .ok _ => []
  | .error e => [.unsavedSettings e]

theorem runAct_accountOf (host : Host) (settings : Settings) (given : Option String) (s : State) :
    runAct (accountOf host settings given) s =
      (.ok (accountText host settings given),
        { s with stdout := s.stdout ++ prompt settings given }) := by
  unfold accountOf accountText prompt
  cases given <|> settings.lastAccount with
  | some account => simp
  | none => rfl

theorem runAct_passwordOf (host : Host) (s : State) :
    runAct (passwordOf host) s =
      match password? host with
      | none => (.error .noTerminal, s)
      | some password => (.ok password, s) := by
  unfold passwordOf
  cases password? host <;> rfl

theorem runAct_recordLogin (host : Host) (account : String) (s : State) :
    runAct (recordLogin host account) s =
      (.ok ⟨⟩, { s with
        panel.line.store := recorded host account s.panel.line.store
        log := s.log ++ recordingWarnings host account s.panel.line.store }) := by
  rw [recordLogin, runAct_modify]
  unfold recorded recordingWarnings saving Settings.onDisk
  simp only
  cases (Settings.rememberLogin _ account host.clock.now).save s.panel.line.store.files
    host.settingsPath with
  | error e => rfl
  | ok files => simp only [List.append_nil]

/-- **The login command**, from where the panel stands to what it leaves. -/
theorem runAct_login (host : Host) (settings : Settings) (given : Option String) (s : State) :
    runAct (login host settings given) s =
      let account := accountText host settings given
      let asked : State := { s with
        panel := { s.panel with current := some .login }
        stdout := s.stdout ++ prompt settings given }
      match password? host with
      | none => (.error .noTerminal, asked)
      | some password =>
        match runOn (Page.login account password) s.panel.line with
        | (.error f, l) => (.error (.login f), { asked with panel.line := l })
        | (.ok user, l) =>
          (.ok (), { asked with
            panel.line := { l with store := recorded host (Text.trim account) l.store }
            stdout := asked.stdout
              ++ (s!"Logged in as {Text.trim account} (user id {user.toNat})" ++ "\n")
            log := asked.log ++ recordingWarnings host (Text.trim account) l.store }) := by
  unfold login
  rw [runAct_bind, runAct_enter, if_pos (.inl rfl)]
  simp only [runAct_bind, runAct_accountOf, runAct_passwordOf]
  cases password? host with
  | none => rfl
  | some password =>
    simp only [runAct_onLine]
    rcases runOn (Page.login (accountText host settings given) password) s.panel.line with ⟨f | user, l⟩
    · rfl
    · simp only [Except.mapError, runAct_recordLogin]
      rfl

/-- However it ends, the command is on the login page, and has written nothing to the error output. -/
theorem login_leaves (host : Host) (settings : Settings) (given : Option String) (s : State) :
    (runAct (login host settings given) s).2.panel.current = some .login ∧
      (runAct (login host settings given) s).2.stderr = s.stderr := by
  rw [runAct_login]
  cases password? host with
  | none => exact ⟨rfl, rfl⟩
  | some password =>
    simp only
    generalize runOn (Page.login (accountText host settings given) password) s.panel.line = r
    obtain ⟨f | user, l⟩ := r <;> exact ⟨rfl, rfl⟩

/-- Of an account only the text without blanks at its ends counts. -/
theorem login_trim (account password : String) :
    Page.login (Text.trim account) password = Page.login account password := by
  simp only [Page.login, Page.authRequest, Text.trim_trim]

/-- A login without an account is one with the account of the last login. -/
theorem runAct_login_again (host : Host) {account : String}
    (last : settings.lastAccount = some (Text.trim account))
    (s : State) :
    runAct (login host settings none) s = runAct (login host settings (some account)) s := by
  have none' : accountText host settings none = Text.trim account := by
    rw [accountText, last]
    rfl
  have some' : accountText host settings (some account) = account := rfl
  have quiet : prompt settings none = "" := by
    rw [prompt, last]
    rfl
  have quiet' : prompt settings (some account) = "" := rfl
  rw [runAct_login, runAct_login, none', some', quiet, quiet']
  simp only [login_trim, Text.trim_trim]

end AdminPanel.Program
