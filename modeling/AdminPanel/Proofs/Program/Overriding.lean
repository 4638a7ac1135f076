import AdminPanel.Proofs.FileTree.PathText
import AdminPanel.Proofs.Program.Gating
import AdminPanel.Proofs.Program.LoggingIn

/-!
# Overrides steer a run and never reach the disk

A run goes by two sets of settings: those that steer it (`steering`), with the flags and the variable on
top of what is saved, and those on disk. Only a login that succeeds writes the settings file, and it
writes what the file said before, with the account and the time of the login (`recorded_cases`). Every
other command leaves whatever is found at the path of the settings as it was (`look_of_act`).
-/

namespace AdminPanel.Program

open Rpc
open FileTree (IsProper)
open Message (AuthRequest)
open Storage (NamedFile)

variable {host : Host} {settings saved : Settings} {flags : Flags} {panel : Panel}

/-! ## What steers a run -/

/-- The settings that steer a run: what its flags say, for the address else what the variable says if it
is not blank, and else what is saved. -/
def steering (saved : Settings) (environment : Environment) (flags : Flags) : Settings where
  baseAddress :=
    match flags.baseAddress with
    | some address => address
    | none =>
      match (environment.get? Settings.addressVariable).map Text.trim with
      | some address => if address = "" then saved.baseAddress else address
      | none => saved.baseAddress
  backend := flags.backend.getD saved.backend
  lastAccount := saved.lastAccount
  lastLogin := saved.lastLogin
  logDir := flags.logDir <|> saved.logDir

theorem applyEnvironment_eq (s : Settings) (value : Option String) :
    s.applyEnvironment value = { s with
      baseAddress := match value.map Text.trim with
        | some address => if address = "" then s.baseAddress else address
        | none => s.baseAddress } := by
  unfold Settings.applyEnvironment
  cases value.map Text.trim with
  | none => rfl
  | some address =>
    by_cases blank : address = ""
    · simp [blank]
    · have full : address.isEmpty = false := by simpa using blank
      simp [full, blank]

theorem settingsOf_eq (loaded : Settings.load host.files host.settingsPath = .ok saved) :
    settingsOf host flags = .ok (steering saved host.environment flags) := by
  unfold settingsOf
  rw [loaded]
  show Except.ok (flags.apply (saved.applyEnvironment _)) = _
  rw [applyEnvironment_eq]
  unfold Flags.apply steering
  cases flags.baseAddress <;> rfl

theorem prepare_eq (flags : Flags) (loaded : Settings.load host.files host.settingsPath = .ok saved) :
    prepare host flags =
      match panelOf host (steering saved host.environment flags) with
      | .error e => .error (.address e)
      | .ok panel => .ok (steering saved host.environment flags, panel) := by
  unfold prepare
  rw [settingsOf_eq loaded]
  simp only [Except.mapError, Bind.bind, Except.bind]
  cases panelOf host (steering saved host.environment flags) <;> rfl

/-! ## Where the files are -/

theorem exists_settingsPath (host : Host) : ∃ front, host.settingsPath = front ++ ["config.json"] :=
  ⟨host.directoryOf "XDG_CONFIG_HOME" [".config"] ++ ["ocpanel"], by simp [Host.settingsPath]⟩

theorem exists_storagePath (host : Host) : ∃ front, host.storagePath = front ++ ["storage.json"] :=
  ⟨host.directoryOf "XDG_DATA_HOME" [".local", "share"] ++ ["ocpanel"], by simp [Host.storagePath]⟩

/-- Where the environment names no directories, the settings are kept in the home on record. -/
theorem settingsPath_of_none (config : host.environment.get? "XDG_CONFIG_HOME" = none)
    (home : host.environment.get? "HOME" = none) :
    host.settingsPath = host.home ++ [".config", "ocpanel", "config.json"] := by
  rw [Host.settingsPath, Host.directoryOf, config, Host.homeDirectory, home]
  simp

theorem namedFile_openStore (settings : Settings) (host : Host) (files : FileTree) :
    NamedFile "storage.json" (settings.openStore host.storagePath files) := by
  intro path place
  unfold Settings.openStore at place
  split at place
  · cases place
    exact exists_storagePath host
  · cases place
  · cases place

theorem files_openStore (settings : Settings) (path : FilePath) (files : FileTree) :
    (settings.openStore path files).files = files := by
  unfold Settings.openStore
  split <;> rfl

/-- A fresh panel stands over the files of the host, its storage file has its name, and nothing has been
called. -/
theorem fresh_of_panelOf (h : panelOf host settings = .ok panel) :
    NamedFile "storage.json" panel.line.store ∧ panel.line.store.files = host.files ∧
      panel.line.calls = [] := by
  obtain ⟨transport, -, rfl⟩ := panelOf_eq_ok_iff.mp h
  exact ⟨namedFile_openStore settings host host.files, files_openStore settings _ host.files, rfl⟩

/-! ## What commands leave at the path of the settings -/

section Acts

variable {s : State}

/-- Every command but a login leaves what is found at the path of the settings. -/
theorem look_of_act (host : Host) (s : State)
    (named : NamedFile "storage.json" s.panel.line.store) (settings : Settings)
    {command : Command} (noLogin : ∀ given, command ≠ .login given) :
    (runAct (act host settings command) s).2.panel.line.store.files.look host.settingsPath
      = s.panel.line.store.files.look host.settingsPath := by
  -- only a logout writes to the storage; opening a page and all other commands leave it alone
  by_cases opens : ∃ path json, command = .openPage path json
  · obtain ⟨path, json, rfl⟩ := opens
    show (runAct (openPage host path json) s).2.panel.line.store.files.look _ = _
    rw [runAct_openPage]
    cases Navigation.go s.panel.line.store path with
    | error e => rfl
    | ok n =>
      simp only [(does_display host json n (s.opens path n)).store]
      rfl
  · by_cases ends : command = .logout
    · -- the storage file may be rewritten, and it has another name
      subst ends
      show (runAct logout s).2.panel.line.store.files.look _ = _
      unfold logout
      rw [runAct_bind, runAct_onLine, Page.runOn_logout]
      cases finished : Session.finish s.panel.line.store with
      | error e => rfl
      | ok store =>
        obtain ⟨front, path⟩ := exists_settingsPath host
        rw [path]
        exact Storage.look_of_remove named (by decide) (by decide) (by decide) finished
    · have other : ∀ path json, command ≠ .openPage path json :=
        fun path json same => opens ⟨path, json, same⟩
      rw [(does_act host settings noLogin ends other s).store]

/-- A login that fails leaves the storage and the files around it. -/
theorem store_of_login_error {given : Option String} {e : Fault} {s' : State}
    (h : runAct (login host settings given) s = (.error e, s')) :
    s'.panel.line.store = s.panel.line.store := by
  rw [runAct_login] at h
  cases hp : password? host with
  | none =>
    simp only [hp] at h
    cases h
    rfl
  | some password =>
    have ended := Page.login_cases (accountText host settings given) password s.panel.line
    simp only [hp] at h
    generalize runOn (Page.login (accountText host settings given) password) s.panel.line = r at ended h
    -- the settings are written after the token has been kept, so that no failure comes behind that
    cases ended with
    | noAccount | noPassword =>
      cases h
      rfl
    | failed f l' complete store | unstored response f l' complete store =>
      cases h
      exact store
    | stored => cases h

/-- A login that succeeds leaves the storage that its answer leaves, recorded. -/
theorem store_of_login_ok {given : Option String} {password : String} {user : UInt64}
    (known : password? host = some password)
    (granted : (runOn (Page.login (accountText host settings given) password) s.panel.line).1 =
      .ok user) :
    (runAct (login host settings given) s).2.panel.line.store =
      recorded host (Text.trim (accountText host settings given))
        (runOn (Page.login (accountText host settings given) password) s.panel.line).2.store := by
  rw [runAct_login, known]
  simp only
  generalize runOn (Page.login (accountText host settings given) password) s.panel.line = r at granted ⊢
  obtain ⟨result, l⟩ := r
  obtain rfl : result = .ok user := granted
  rfl

/-- What recording a login does: it saves the settings on disk with the account and the time, or the
files stay as they are. -/
theorem recorded_cases (host : Host) (account : String) (store : Storage.Store) :
    ((∃ e, ((Settings.onDisk store.files host.settingsPath).rememberLogin account
        host.clock.now).save store.files host.settingsPath = .error e) ∧
      recorded host account store = store) ∨
    Settings.load (recorded host account store).files host.settingsPath =
      .ok ((Settings.onDisk store.files host.settingsPath).rememberLogin account host.clock.now) := by
  unfold recorded saving
  cases saved : ((Settings.onDisk store.files host.settingsPath).rememberLogin account
      host.clock.now).save store.files host.settingsPath with
  | error e => exact .inl ⟨⟨e, rfl⟩, rfl⟩
  | ok files => exact .inr (Settings.load_of_save saved)

/-- A login that succeeds has made one call, and has recorded the account that it sent. -/
theorem login_ok {given : Option String} {s' : State} (named : NamedFile "storage.json" s.panel.line.store)
    (h : runAct (login host settings given) s = (.ok (), s')) :
    ∃ password c kept, s'.panel.line.calls = s.panel.line.calls ++ [c] ∧
      c.body = AuthRequest.layout.write
        { account := some (.ofText (Text.trim (accountText host settings given)))
          password := password } ∧
      Storage.Kept "storage.json" s.panel.line.store.files kept.files ∧
      s'.panel.line.store = recorded host (Text.trim (accountText host settings given)) kept := by
  rw [runAct_login] at h
  cases hp : password? host with
  | none =>
    simp only [hp] at h
    cases h
  | some password =>
    have ended := Page.login_cases (accountText host settings given) password s.panel.line
    simp only [hp] at h
    generalize runOn (Page.login (accountText host settings given) password) s.panel.line = r at ended h
    cases ended with
    | noAccount | noPassword | failed | unstored => cases h
    | stored response l' complete granted readable started call =>
      obtain ⟨c, issued, call⟩ := call
      cases h
      -- storing the token comes before recording the account, and may make directories
      have kept : Storage.Kept "storage.json" s.panel.line.store.files l'.store.files :=
        Storage.kept_of_set named (Session.start_eq_ok_iff.mp started).2
      exact ⟨password, c, l'.store, issued, call.body, kept, rfl⟩

/-- Whatever is done on a fresh panel, if it is not a login that succeeds, leaves what is found at the
path of the settings. -/
theorem look_of_quiet {command : Command} {result : Except Fault Unit}
    (prepared : panelOf host settings = .ok panel)
    (done : runAct (act host settings command) { panel := panel } = (result, s))
    (quiet : (∀ given, command ≠ .login given) ∨ result ≠ .ok ()) :
    s.panel.line.store.files.look host.settingsPath = host.files.look host.settingsPath := by
  obtain ⟨named, files, -⟩ := fresh_of_panelOf prepared
  by_cases isLogin : ∃ given, command = .login given
  · -- the login has failed
    obtain ⟨given, rfl⟩ := isLogin
    obtain ⟨e, rfl⟩ : ∃ e, result = .error e := by
      cases result with
      | ok u => exact absurd rfl (quiet.resolve_left fun other => other given rfl)
      | error e => exact ⟨e, rfl⟩
    rw [store_of_login_error done, files]
  · have same := look_of_act host { panel := panel } named settings
      fun given isLogin' => isLogin ⟨given, isLogin'⟩
    rw [done] at same
    rw [same, files]

/-- What a login that succeeds on a fresh panel has sent, and what it leaves at the path of the settings:
what they said in their place, with the account and the time, unless that cannot be saved. -/
theorem recorded_of_login {given : Option String} (prepared : panelOf host settings = .ok panel)
    (done : runAct (login host settings given) { panel := panel } = (.ok (), s)) :
    let account := Text.trim (accountText host settings given)
    ∃ password c before, s.panel.line.calls = [c] ∧
      c.body = AuthRequest.layout.write { account := some (.ofText account), password := password } ∧
      Settings.SaysInPlace host.files host.settingsPath before ∧
      ((∃ e, (before.rememberLogin account host.clock.now).save s.panel.line.store.files
          host.settingsPath = .error e) ∨
        Settings.load s.panel.line.store.files host.settingsPath =
          .ok (before.rememberLogin account host.clock.now)) := by
  intro account
  obtain ⟨named, files, fresh⟩ := fresh_of_panelOf prepared
  obtain ⟨password, c, kept, issued, body, keeps, recorded⟩ := login_ok named done
  rw [files] at keeps
  rw [fresh] at issued
  obtain ⟨front, path⟩ := exists_settingsPath host
  have inPlace : Settings.SaysInPlace host.files host.settingsPath
      (Settings.onDisk kept.files host.settingsPath) := by
    rw [path]
    exact Settings.saysInPlace_of_kept (by decide) (by decide) keeps
  refine ⟨password, c, _, issued, body, inPlace, ?_⟩
  rw [recorded]
  rcases recorded_cases host account kept with ⟨failed, same⟩ | saved
  · rw [same]
    exact .inl failed
  · exact .inr saved

end Acts

/-! ## Whole runs -/

/-- A run over settings that load is what its command does on the panel that they steer. -/
theorem run_eq_steered {words : List String} {i : CommandLine.Invocation}
    (parsed : CommandLine.parse words = .ok i)
    (loaded : Settings.load host.files (withVariables host).settingsPath = .ok saved) :
    run host words =
      match panelOf (withVariables host)
        (steering saved (withVariables host).environment i.flags) with
      | .error e =>
        { exit := 1, stderr := complaint (.error (.address e)), files := host.files,
          peer := host.peer }
      | .ok panel =>
        let r := runAct (act (withVariables host)
          (steering saved (withVariables host).environment i.flags) i.command) { panel := panel }
        outcomeOf r.1 r.2 := by
  have prepared := prepare_eq i.flags loaded
  simp only [run, parsed, runCommand, prepared]
  cases panelOf (withVariables host) (steering saved (withVariables host).environment i.flags) <;> rfl

/-- After a login, one without an account is the same login. -/
theorem runCommand_login_again {account : String}
    (loaded : Settings.load host.files host.settingsPath = .ok saved)
    (last : saved.lastAccount = some (Text.trim account)) (flags : Flags) :
    runCommand host ⟨.login none, flags⟩ = runCommand host ⟨.login (some account), flags⟩ := by
  have steered : (steering saved host.environment flags).lastAccount = some (Text.trim account) := last
  simp only [runCommand, prepare_eq flags loaded]
  cases panelOf host (steering saved host.environment flags) with
  | error e => rfl
  | ok panel =>
    have same := runAct_login_again host steered { panel := panel }
    unfold runAct at same
    simp only [act, same]

/-- A run over settings that remember an account is the login of that account. -/
theorem run_login_again {words : List String} {account : String}
    (parsed : CommandLine.parse words = .ok ⟨.login none, flags⟩)
    (loaded : Settings.load host.files (withVariables host).settingsPath = .ok saved)
    (last : saved.lastAccount = some (Text.trim account)) :
    run host words = runCommand (withVariables host) ⟨.login (some account), flags⟩ := by
  rw [run, parsed]
  exact runCommand_login_again loaded last flags

theorem exit_outcomeOf {result : Except Fault Unit} {s : State} :
    (outcomeOf result s).exit = 0 ↔ result = .ok () := by
  cases result with
  | ok u => simp [outcomeOf, Except.isOk, Except.toBool]
  | error e => simp [outcomeOf, Except.isOk, Except.toBool]

/-- **Overrides steer a run and never reach the disk.** Let the command line name a command, and let the
settings file load, or be missing.

The command is done on a panel of the settings that steer the run. If it is a login that succeeds, one
call has been made, for the account without the blanks around it; and unless the settings cannot be
saved, the settings file then says what it said in its place before, with this account and the time of
the login and nothing of what steered the run. This is what had been loaded, unless the file could not be
found until the storage had made the directories on the way to it. A later login over this file without
an account is the login of the same account. Any other command, and a login that fails, leaves what is
found at the path of the settings as it was. -/
theorem overrides_stay_off_disk {host : Host} {words : List String} {i : CommandLine.Invocation}
    {saved : Settings} (parsed : CommandLine.parse words = .ok i)
    (loaded : Settings.load host.files (withVariables host).settingsPath = .ok saved) :
    let h := withVariables host
    let path := h.settingsPath
    let settings := steering saved h.environment i.flags
    let outcome := run host words
    (outcome =
      match panelOf h settings with
      | .error e =>
        { exit := 1, stderr := complaint (.error (.address e)), files := host.files,
          peer := host.peer }
      | .ok panel =>
        let r := runAct (act h settings i.command) { panel := panel }
        outcomeOf r.1 r.2) ∧
    (∀ given, i.command = .login given → outcome.exit = 0 →
      ∃ account password c, account = (given <|> saved.lastAccount).getD h.typedLine ∧
        outcome.calls = [c] ∧
        c.body = AuthRequest.layout.write
          { account := some (.ofText (Text.trim account)), password := password } ∧
        ∃ before : Settings, Settings.SaysInPlace host.files path before ∧
          (Settings.Apparent host.files path → before = saved) ∧
          ((∃ e, (before.rememberLogin (Text.trim account) h.clock.now).save outcome.files path
              = .error e) ∨
            (Settings.load outcome.files path = .ok { before with
                lastAccount := some (Text.trim account)
                lastLogin := some h.clock.now } ∧
              ∀ (host' : Host) (words' : List String) (flags' : Flags),
                host'.files = outcome.files → (withVariables host').settingsPath = path →
                CommandLine.parse words' = .ok ⟨.login none, flags'⟩ →
                run host' words' =
                  runCommand (withVariables host') ⟨.login (some account), flags'⟩))) ∧
    ((∀ given, i.command ≠ .login given) ∨ outcome.exit ≠ 0 →
      outcome.files.look path = host.files.look path) := by
  intro h path settings outcome
  have whole : outcome = _ := run_eq_steered parsed loaded
  refine ⟨whole, ?_⟩
  cases prepared : panelOf h settings with
  | error e =>
    -- the address is refused, and nothing is done
    rw [prepared] at whole
    rw [whole]
    refine ⟨fun given _ ok => ?_, fun _ => rfl⟩
    cases ok
  | ok panel =>
    rcases done : runAct (act h settings i.command) { panel := panel } with ⟨result, s⟩
    have ended : outcome = outcomeOf result s := by
      rw [whole, prepared]
      show outcomeOf (runAct (act h settings i.command) _).1 (runAct (act h settings i.command) _).2 = _
      rw [done]
    have files : outcome.files = s.panel.line.store.files := congrArg Outcome.files ended
    constructor
    · intro given isLogin ok
      rw [ended, exit_outcomeOf] at ok
      rw [isLogin, ok] at done
      obtain ⟨password, c, before, issued, body, inPlace, left⟩ := recorded_of_login prepared done
      refine ⟨accountText h settings given, password, c, rfl,
        (congrArg Outcome.calls ended).trans issued, body, before, inPlace,
        fun apparent => inPlace.eq_of_load apparent loaded, ?_⟩
      rw [files]
      refine left.imp_right fun saved' => ⟨saved', fun host' words' flags' same path' parsed' => ?_⟩
      have loaded' : Settings.load host'.files (withVariables host').settingsPath =
          .ok (before.rememberLogin (Text.trim (accountText h settings given)) h.clock.now) := by
        rw [path', same]
        exact saved'
      exact run_login_again parsed' loaded' rfl
    · intro quiet
      rw [ended, ne_eq, exit_outcomeOf] at quiet
      rw [files]
      exact look_of_quiet prepared done quiet

/-- Neither the address of the environment nor the storage of the command line is saved when a login is
recorded. -/
theorem overrides_stay_off_disk_login :
    let host : Host := {
      home := ["home", "u"]
      environment := [(passwordVariable, "p"), (Settings.addressVariable, " http://h ")]
      clock := default
      peer := .scripted [("Auth", [.messages
        [Message.AuthResponse.layout.write { id := 42, token := "new" }] (.status .ok "")])] }
    let outcome := run host ["--storage", "memory", "login", " a "]
    outcome.exit = 0 ∧
      Settings.load outcome.files (withVariables host).settingsPath =
        .ok { lastAccount := some "a", lastLogin := some host.clock.now } := by
  intro host outcome
  have path : (withVariables host).settingsPath =
      ["home", "u", ".config", "ocpanel", "config.json"] := settingsPath_of_none rfl rfl
  have parsed : CommandLine.parse ["--storage", "memory", "login", " a "]
      = .ok ⟨.login (some " a "), { backend := some .memory }⟩ := by decide
  have loaded : Settings.load host.files (withVariables host).settingsPath = .ok {} := by
    rw [path]
    rfl
  -- no node is there at all, so that what is found at first are the defaults
  have apparent : Settings.Apparent host.files (withVariables host).settingsPath := by
    rw [path]
    exact .inr ⟨by decide, fun f => by simp [host, FileTree.node?]⟩
  obtain ⟨whole, login, -⟩ := overrides_stay_off_disk parsed loaded
  have ok : outcome.exit = 0 := (congrArg Outcome.exit whole).trans (by decide +kernel)
  obtain ⟨account, password, c, named, -, -, before, -, same, saved⟩ := login _ rfl ok
  obtain rfl := same apparent
  obtain rfl : account = " a " := named
  refine ⟨ok, ?_⟩
  rcases saved with ⟨e, failed⟩ | ⟨loads, -⟩
  · -- the settings can be saved beside what the login leaves
    let line : Line := ⟨⟨.memory [], {}⟩, ⟨"http://h", ⟨"http", "h", ""⟩⟩, host.peer, []⟩
    let settings := steering {} (withVariables host).environment { backend := some .memory }
    let account := accountText (withVariables host) settings (some " a ")
    have transport : Transport.new settings.baseAddress (withVariables host).hasRoots =
        .ok line.transport := by decide +kernel
    have panel : panelOf (withVariables host) settings = .ok { line := line } := by
      rw [panelOf_eq, transport]
      rfl
    have known : password? (withVariables host) = some "p" := by decide
    have granted : (runOn (Page.login account "p") line).1 = .ok 42 := by decide +kernel
    have stored : (runOn (Page.login account "p") line).2.store = ⟨.memory [("token", "new")], {}⟩ := by
      decide +kernel
    have files : outcome.files =
        (recorded (withVariables host) "a" ⟨.memory [("token", "new")], {}⟩).files := by
      have left := store_of_login_ok (s := { panel := { line := line } }) known granted
      rw [stored, show Text.trim account = "a" by decide] at left
      rw [show outcome = _ from whole, panel]
      dsimp only [act, outcomeOf]
      rw [left]
    have works : ((Settings.rememberLogin {} "a" host.clock.now).save outcome.files
        (withVariables host).settingsPath).isOk = true := by
      rw [files, recorded, saving, path]
      decide +kernel
    rw [show Text.trim " a " = "a" by decide] at failed
    have failed : (Settings.rememberLogin {} "a" host.clock.now).save outcome.files
        (withVariables host).settingsPath = .error e := failed
    rw [failed] at works
    cases works
  · rw [loads]
    decide

end AdminPanel.Program
