import AdminPanel.Listing
import AdminPanel.Proofs.Panel.Discretion
import AdminPanel.Proofs.Program.Overriding

/-!
# Secrets leave only where they should

Two runs of the program over files that differ in the token of the storage file end alike
(`run_twins`), and so do two logins with different passwords, which come from the environment or are typed
(`runCommand_login_password`). Of the token, the peer sees the header that carries it, and of the password the
body of the call that exchanges it (`secrets_stay_in_place`).

Two things are the user's own doing: a run sends the file that it is told to send, which may be the
storage file, and it reads variables that the environment file makes from others, which may be the
password. And a storage in memory lists the items that it is made of, which nothing else does
(`secrets_named`).
-/

namespace AdminPanel

open FileTree (DifferAt IsProper)
open Session (TwinFiles Twins)

/-! ## Listings of storages -/

/-- Storages that differ in the token are listed alike, unless they list their items. -/
theorem Session.TwinPlaces.listing? {path : FilePath} {place place' : Storage.Place}
    (h : TwinPlaces path place place') (elsewhere : ∀ items, place ≠ .memory items) :
    place'.listing? = place.listing? := by
  cases h with
  | @memory items items' twins => exact absurd rfl (elsewhere items)
  | refusing | keychain | file => rfl

/-! ## Settings beside the storage file -/

section Settings

variable {name other : String} {parent front : FilePath} {t t' : FileTree}

/-- Saving settings elsewhere leaves what the storage files hold. -/
theorem Session.TwinFiles.save (h : TwinFiles (parent ++ [name]) (front ++ [name]) t t')
    (proper : IsProper name) (ne : name ≠ other) (settings : Settings) (above : FilePath) :
    Alike (TwinFiles (parent ++ [name]) (front ++ [name])) (settings.save t (above ++ [other]))
      (settings.save t' (above ++ [other])) := by
  have saved : Alike (DifferAt (parent ++ [name])) (settings.save t (above ++ [other]))
      (settings.save t' (above ++ [other])) :=
    (h.differ.makeDirs _).bind fun _ _ made => made.write _ _
  -- the storage file has another name than the one that is written, so that its text stays
  have kept {t u : FileTree} {items : Storage.Items}
      (saves : settings.save t (above ++ [other]) = .ok u)
      (holds : Storage.HoldsDocument t (front ++ [name]) items) :
      Storage.HoldsDocument u (front ++ [name]) items := by
    obtain ⟨text, read, parsed⟩ := holds
    obtain ⟨f, looked⟩ := FileTree.file_of_readText read
    have there : u.look (front ++ [name]) = .ok (.file f) :=
      (Settings.kept_of_save saves).look proper ne looked
    exact ⟨text, (FileTree.readText_congr (there.trans looked.symm)).trans read, parsed⟩
  rcases saved.cases_eq with ⟨e, left, right⟩ | ⟨u, u', left, right, differ⟩
  · rw [left, right]
    exact .error _
  · obtain ⟨items, items', holds, holds', twins⟩ := h.documents
    rw [left, right]
    exact .ok ⟨differ, items, items', kept left holds, kept right holds', twins⟩

end Settings

namespace Program

open Rpc

variable {α β ε : Type} {q path : FilePath} {s s' : State} {host : Host} {settings : Settings}

/-! ## Acts on twins -/

/-- States that differ at most in the token of the storage and in what it has been sent with. -/
structure TwinStates (q path : FilePath) (s s' : State) : Prop where
  panel : Panel.Twins q path s.panel s'.panel
  stdout : s'.stdout = s.stdout
  stderr : s'.stderr = s.stderr
  log : s'.log = s.log

namespace TwinStates

theorem withCurrent (h : TwinStates q path s s') (current : Option Route) :
    TwinStates q path { s with panel.current := current } { s' with panel.current := current } :=
  ⟨⟨h.panel.line, rfl, h.panel.opened⟩, h.stdout, h.stderr, h.log⟩

/-- Navigations log that a storage cannot be read, and not what is in it. -/
theorem navigationWarnings (h : TwinStates q path s s') (target : String) :
    navigationWarnings s'.panel.line.store target = navigationWarnings s.panel.line.store target := by
  unfold Program.navigationWarnings Guard.unread?
  rcases h.panel.line.store.token with same | ⟨t, t', left, right, -, -⟩
  · rw [same]
  · rw [left, right]

theorem sentAway (h : TwinStates q path s s') (target : String) :
    TwinStates q path (s.sentAway target) (s'.sentAway target) := by
  refine ⟨⟨h.panel.line, rfl, h.panel.opened⟩, h.stdout, h.stderr, ?_⟩
  simp only [State.sentAway, h.log, h.navigationWarnings]

theorem opens (h : TwinStates q path s s') (target : String) (n : Navigation) :
    TwinStates q path (s.opens target n) (s'.opens target n) := by
  refine ⟨⟨h.panel.line, rfl, rfl⟩, h.stdout, h.stderr, ?_⟩
  simp only [State.opens, h.log, h.navigationWarnings]

end TwinStates

/-- What two acts give and what they leave: the same result, and twins. -/
structure TwinResults (q path : FilePath) (r r' : Except Fault α × State) : Prop where
  result : r'.1 = r.1
  state : TwinStates q path r.2 r'.2

/-- An act that does the same on twins. -/
def Discreet (q path : FilePath) (a : Act α) : Prop :=
  ∀ s s', TwinStates q path s s' → TwinResults q path (runAct a s) (runAct a s')

namespace Discreet

theorem pure (x : α) : Discreet q path (Pure.pure x : Act α) := fun _ _ h => ⟨rfl, h⟩

theorem throw (e : Fault) : Discreet q path (MonadExcept.throw e : Act α) := fun _ _ h => ⟨rfl, h⟩

theorem bind {a : Act α} {f : α → Act β} (h : Discreet q path a)
    (hf : ∀ x, Discreet q path (f x)) : Discreet q path (a >>= f) := by
  intro s s' twins
  obtain ⟨same, after⟩ := h s s' twins
  rw [runAct_bind, runAct_bind]
  rcases left : runAct a s with ⟨result, m⟩
  rcases right : runAct a s' with ⟨result', m'⟩
  rw [left, right] at same after
  obtain rfl : result' = result := same
  cases result' with
  | error e => exact ⟨rfl, after⟩
  | ok x => exact hf x m m' after

theorem say (text : String) : Discreet q path (say text) :=
  fun _ _ h => ⟨rfl, h.panel, congrArg (· ++ text) h.stdout, h.stderr, h.log⟩

theorem sayLine (text : String) : Discreet q path (sayLine text) := say _

theorem warn (text : String) : Discreet q path (warn text) :=
  fun _ _ h => ⟨rfl, h.panel, h.stdout, congrArg (· ++ text ++ "\n") h.stderr, h.log⟩

theorem onLine (ofFault : ε → Fault) {act : ExceptT ε (StateM Line) α}
    (h : ∀ l l', TwinLines q path l l' → (runOn act l').1 = (runOn act l).1 ∧
      TwinLines q path (runOn act l).2 (runOn act l').2) :
    Discreet q path (onLine ofFault act) := by
  intro s s' twins
  obtain ⟨same, after⟩ := h _ _ twins.panel.line
  rw [runAct_onLine, runAct_onLine, same]
  exact ⟨rfl, ⟨after, twins.panel.current, twins.panel.opened⟩, twins.stdout, twins.stderr, twins.log⟩

theorem call {act : OnLine α} (h : OfCalls act) : Discreet q path (call act) :=
  onLine .rpc fun _ _ twins => h.twins twins

theorem enter (route : Route) : Discreet q path (enter route) := by
  intro s s' h
  rw [runAct_enter, runAct_enter, h.panel.line.store.isOpen]
  split
  · exact ⟨rfl, h.withCurrent (some route)⟩
  · exact ⟨rfl, h.sentAway route.path⟩

end Discreet

/-! ## Commands on twins -/

/-- What is shown of a token is that there is one. -/
theorem discreet_statusLines (settings : Settings) (token : Bool) : Discreet q path (do
    sayLine ("Server:     " ++ settings.baseAddress)
    sayLine ("Storage:    " ++ settings.backend.name)
    sayLine ("Session:    " ++ if token then "logged in" else "logged out")
    match settings.lastAccount with
    | none => pure ()
    | some account =>
      sayLine s!"Last login: {account} at {Time.timeText settings.lastLogin}") := by
  refine (Discreet.sayLine _).bind fun _ => (Discreet.sayLine _).bind fun _ =>
    (Discreet.sayLine _).bind fun _ => ?_
  cases settings.lastAccount with
  | none => exact .pure _
  | some account => exact .sayLine _

theorem discreet_showStatus (settings : Settings) : Discreet q path (showStatus settings) := by
  intro s s' h
  unfold showStatus
  simp only [runAct_bind, runAct_get]
  rcases h.panel.line.store.token with same | ⟨t, t', left, right, -, -⟩
  · rw [same]
    cases Session.token s.panel.line.store with
    | error e => exact ⟨rfl, h⟩
    | ok token => exact discreet_statusLines settings token.isSome s s' h
  · rw [left, right]
    exact discreet_statusLines settings true s s' h

theorem discreet_display (host : Host) (json : Bool) (n : Navigation) :
    Discreet q path (display host json n) := by
  have loads : Discreet q path (do
      let data ← call (Page.load host.clock n.route)
      if json then sayLine data.value.print else say data.text) := by
    refine (Discreet.call (Page.ofCalls_load host.clock n.route)).bind fun data => ?_
    split
    · exact .sayLine _
    · exact .say _
  cases n with
  | allowed r => exact loads
  | redirected requested landing => exact (Discreet.warn _).bind fun _ => loads

theorem discreet_openPage (host : Host) (target : String) (json : Bool) :
    Discreet q path (openPage host target json) := by
  intro s s' h
  have same : Navigation.go s'.panel.line.store target = Navigation.go s.panel.line.store target := by
    rw [Navigation.go, Navigation.go, h.panel.decide]
  rw [runAct_openPage, runAct_openPage, same]
  cases Navigation.go s.panel.line.store target with
  | error e => exact ⟨rfl, h⟩
  | ok n => exact discreet_display host json n _ _ (h.opens target n)

/-- Sending a file: the guard, the file as it is then, and the call. -/
theorem runAct_setConfig (host : Host) (file : String) (s : State) :
    runAct (setConfig host file) s =
      let entered : State := { s with panel.current := some .config }
      if Session.isOpen s.panel.line.store then
        match s.panel.line.store.files.readText (FileTree.pathOf host.directory file) with
        | .error e => (.error (.readFile file e), entered)
        | .ok content =>
          runAct (do
            call (Page.setConfig content)
            sayLine ("Server config updated from " ++ file)) entered
      else (.error (.notLoggedIn Route.config.path), s.sentAway Route.config.path) := by
  unfold setConfig
  rw [runAct_bind, runAct_enter]
  cases Session.isOpen s.panel.line.store with
  | false => rfl
  | true =>
    rw [if_pos (.inr rfl)]
    dsimp only
    rw [runAct_bind, runAct_get]
    dsimp only
    cases s.panel.line.store.files.readText (FileTree.pathOf host.directory file) <;> rfl

/-- Sending a file sends what is in it, so that this must be the same. -/
theorem setConfig_twins (h : TwinStates q path s s') (file : String)
    (same : s'.panel.line.store.files.readText (FileTree.pathOf host.directory file) =
      s.panel.line.store.files.readText (FileTree.pathOf host.directory file)) :
    TwinResults q path (runAct (setConfig host file) s) (runAct (setConfig host file) s') := by
  have entered := h.withCurrent (some .config)
  rw [runAct_setConfig, runAct_setConfig, h.panel.line.store.isOpen, same]
  simp only
  split
  · split
    · exact ⟨rfl, entered⟩
    · exact ((Discreet.call (Page.ofCalls_setConfig _)).bind fun _ => .sayLine _) _ _ entered
  · exact ⟨rfl, h.sentAway _⟩

section Login

variable {name : String} {parent front : FilePath}

/-- The settings that are recorded after a login do not tell which token was stored, nor does what is logged
about it. -/
theorem recorded_twins (host : Host) {store store' : Storage.Store} (proper : IsProper name)
    (ne : name ≠ "config.json") (h : Twins (parent ++ [name]) (front ++ [name]) store store')
    (account : String) :
    Twins (parent ++ [name]) (front ++ [name]) (recorded host account store)
        (recorded host account store') ∧
      recordingWarnings host account store' = recordingWarnings host account store := by
  obtain ⟨above, settingsPath⟩ := exists_settingsPath host
  unfold recorded recordingWarnings saving
  rw [settingsPath]
  rcases h.files with same | twins
  · -- the tokens are in memory, and the files around them are the same
    rw [same]
    cases (Settings.rememberLogin _ account host.clock.now).save store.files
      (above ++ ["config.json"]) with
    | error e => exact ⟨h, rfl⟩
    | ok files => exact ⟨⟨h.place, .inl rfl⟩, rfl⟩
  · have said : Settings.onDisk store'.files (above ++ ["config.json"]) =
        Settings.onDisk store.files (above ++ ["config.json"]) := by
      rw [Settings.onDisk, Settings.onDisk,
        Settings.load_congr (twins.differ.look_of_name (by decide) ne.symm)]
    rw [said]
    rcases (twins.save proper ne _ above).cases_eq with
      ⟨e, left, right⟩ | ⟨u, u', left, right, after⟩
    · rw [left, right]
      exact ⟨h, rfl⟩
    · rw [left, right]
      exact ⟨⟨h.place, .inr after⟩, rfl⟩

theorem discreet_login (host : Host) (settings : Settings) (given : Option String)
    (proper : IsProper name) (ne : name ≠ "config.json") :
    Discreet (parent ++ [name]) (front ++ [name]) (login host settings given) := by
  intro s s' h
  have line := h.panel.line
  rw [runAct_login, runAct_login]
  simp only
  cases password? host with
  | none =>
    exact ⟨rfl, ⟨line, rfl, h.panel.opened⟩, congrArg (· ++ _) h.stdout, h.stderr, h.log⟩
  | some password =>
    -- both logins end alike; the peers see two credentials, and nothing that is printed is made of them
    obtain ⟨same, after⟩ := Page.login_twins line (accountText host settings given) password
    rcases left : runOn (Page.login (accountText host settings given) password) s.panel.line with
      ⟨result, l⟩
    rcases right : runOn (Page.login (accountText host settings given) password) s'.panel.line with
      ⟨result', l'⟩
    rw [left, right] at same after
    obtain rfl : result' = result := same
    simp only [left, right]
    cases result' with
    | error f =>
      exact ⟨rfl, ⟨after, rfl, h.panel.opened⟩, congrArg (· ++ _) h.stdout, h.stderr, h.log⟩
    | ok user =>
      obtain ⟨recorded, warnings⟩ := recorded_twins host proper ne after.store
        (Text.trim (accountText host settings given))
      refine ⟨rfl, ⟨after.withStore recorded, rfl, h.panel.opened⟩,
        congrArg (· ++ _ ++ _) h.stdout, h.stderr, ?_⟩
      simp only [h.log, warnings]

/-- **A command on twins**: the same result and the same output, unless it sends a file that is not the
same. -/
theorem act_twins (host : Host) (settings : Settings) (command : Command) (proper : IsProper name)
    (ne : name ≠ "config.json") (h : TwinStates (parent ++ [name]) (front ++ [name]) s s')
    (sent : ∀ file, command = .setConfig file →
      s'.panel.line.store.files.readText (FileTree.pathOf host.directory file) =
        s.panel.line.store.files.readText (FileTree.pathOf host.directory file)) :
    TwinResults (parent ++ [name]) (front ++ [name]) (runAct (act host settings command) s)
      (runAct (act host settings command) s') := by
  cases command with
  | login account => exact discreet_login host settings account proper ne s s' h
  | logout =>
    exact ((Discreet.onLine .clearToken fun _ _ => Page.logout_twins).bind fun _ => .sayLine _) s s' h
  | status => exact discreet_showStatus settings s s' h
  | routes => exact Discreet.say _ s s' h
  | openPage target json => exact discreet_openPage host target json s s' h
  | setStatus status reason =>
    exact ((Discreet.enter _).bind fun _ =>
      (Discreet.call (Page.ofCalls_setStatus status reason)).bind fun _ => .sayLine _) s s' h
  | ban user seconds reason =>
    refine ((Discreet.enter _).bind fun _ =>
      (Discreet.call (Page.ofCalls_ban user _ reason)).bind fun _ => ?_) s s' h
    cases seconds <;> exact .sayLine _
  | unban user =>
    exact ((Discreet.enter _).bind fun _ =>
      (Discreet.call (Page.ofCalls_unban user)).bind fun _ => .sayLine _) s s' h
  | deleteAccount user =>
    exact ((Discreet.enter _).bind fun _ =>
      (Discreet.call (Page.ofCalls_deleteAccount user)).bind fun _ => .sayLine _) s s' h
  | announce title content =>
    exact ((Discreet.enter _).bind fun _ =>
      (Discreet.call (Page.ofCalls_announce title content)).bind fun _ => .sayLine _) s s' h
  | getConfig =>
    exact ((Discreet.enter _).bind fun _ =>
      (Discreet.call Page.ofCalls_loadConfigText).bind fun _ => .sayLine _) s s' h
  | setConfig file =>
    -- the only command that reads a file of the user's choice
    exact setConfig_twins h file (sent file rfl)

end Login

/-! ## Runs over twin files -/

section Runs

variable {parent : FilePath} {files' : FileTree}

/-- The environment file is another file than the storage file. -/
theorem findFrom_congr {t t' : FileTree} (h : DifferAt (parent ++ ["storage.json"]) t t')
    (names : List String) : EnvFile.findFrom t' names = EnvFile.findFrom t names := by
  induction names with
  | nil =>
    have looked : t'.look ([] ++ [".env"]) = t.look ([] ++ [".env"]) :=
      h.look_of_name (by decide) (by decide)
    rw [List.nil_append] at looked
    rw [EnvFile.findFrom, EnvFile.findFrom, looked]
  | cons name above ih =>
    have looked : t'.look ((name :: above).reverse ++ [".env"]) =
        t.look ((name :: above).reverse ++ [".env"]) := h.look_of_name (by decide) (by decide)
    rw [EnvFile.findFrom, EnvFile.findFrom, looked, ih]

theorem withVariables_congr (h : DifferAt (parent ++ ["storage.json"]) host.files files') :
    withVariables { host with files := files' } = { withVariables host with files := files' } := by
  have same : Host.fullEnvironment { host with files := files' } = host.fullEnvironment := by
    unfold Host.fullEnvironment
    rw [findFrom_congr h]
  unfold withVariables
  rw [same]

theorem settingsOf_congr (h : DifferAt (parent ++ ["storage.json"]) host.files files')
    (flags : Flags) : settingsOf { host with files := files' } flags = settingsOf host flags := by
  obtain ⟨front, settingsPath⟩ := exists_settingsPath host
  have same : Settings.load files' host.settingsPath = Settings.load host.files host.settingsPath := by
    rw [settingsPath]
    exact Settings.load_congr (h.look_of_name (by decide) (by decide))
  show (do
    let saved ← Settings.load files' host.settingsPath
    return flags.apply (saved.applyEnvironment (host.environment.get? Settings.addressVariable))) = _
  rw [same]
  rfl

theorem openStore_twins {t t' : FileTree} (h : TwinFiles q path t t') (settings : Settings) :
    Twins q path (settings.openStore path t) (settings.openStore path t') := by
  unfold Settings.openStore
  cases settings.backend with
  | file => exact ⟨.file, .inr h⟩
  | keyring => exact ⟨.keychain, .inr h⟩
  | memory => exact ⟨.memory (.refl []), .inr h⟩

/-- Outcomes that differ at most in the token of the storage file and in what it has been sent with. -/
structure TwinOutcomes (q path : FilePath) (o o' : Outcome) : Prop where
  exit : o'.exit = o.exit
  stdout : o'.stdout = o.stdout
  stderr : o'.stderr = o.stderr
  log : o'.log = o.log
  calls : List.Forall₂ TwinCalls o.calls o'.calls
  peer : o'.peer = o.peer
  files : o'.files = o.files ∨ TwinFiles q path o.files o'.files

theorem TwinResults.outcome {r r' : Except Fault Unit × State} (h : TwinResults q path r r') :
    TwinOutcomes q path (outcomeOf r.1 r.2) (outcomeOf r'.1 r'.2) := by
  obtain ⟨result, state⟩ := h
  refine ⟨?_, state.stdout, ?_, state.log, state.panel.line.calls, state.panel.line.peer,
    state.panel.line.store.files⟩
  · simp only [outcomeOf, result]
  · simp only [outcomeOf, result, state.stderr]

/-- The outcome of a run that fails before its command. -/
def failed (host : Host) (e : Fault) : Outcome :=
  { exit := 1, stderr := complaint (.error e), files := host.files, peer := host.peer }

/-- The state that a command starts from. -/
def started (host : Host) (settings : Settings) (transport : Transport) : State :=
  { panel := { line := {
      store := settings.openStore host.storagePath host.files
      transport := transport
      peer := host.peer } } }

/-- A run reads the settings, checks the address, and does its command on a fresh panel. -/
theorem runCommand_eq (host : Host) (i : CommandLine.Invocation) :
    runCommand host i =
      match settingsOf host i.flags with
      | .error e => failed host (.settings e)
      | .ok settings =>
        match Transport.new settings.baseAddress host.hasRoots with
        | .error e => failed host (.address e)
        | .ok transport =>
          let r := runAct (act host settings i.command) (started host settings transport)
          outcomeOf r.1 r.2 := by
  unfold runCommand prepare
  cases settingsOf host i.flags with
  | error e => rfl
  | ok settings =>
    have panel := panelOf_eq host settings
    cases transport : Transport.new settings.baseAddress host.hasRoots with
    | error e =>
      rw [transport] at panel
      simp only [Except.mapError, Bind.bind, Except.bind, panel, transport]
      rfl
    | ok transport' =>
      rw [transport] at panel
      simp only [Except.mapError, Bind.bind, Except.bind, panel, transport]
      rfl

theorem act_withFiles (host : Host) (files : FileTree) (settings : Settings) (command : Command) :
    act { host with files := files } settings command = act host settings command := by
  cases command <;> rfl

/-- **A command over twin files** ends alike. -/
theorem runCommand_twins (host : Host)
    (h : TwinFiles (parent ++ ["storage.json"]) host.storagePath host.files files')
    (i : CommandLine.Invocation)
    (sent : ∀ file, i.command = .setConfig file →
      files'.readText (FileTree.pathOf host.directory file) =
        host.files.readText (FileTree.pathOf host.directory file)) :
    TwinOutcomes (parent ++ ["storage.json"]) host.storagePath (runCommand host i)
      (runCommand { host with files := files' } i) := by
  obtain ⟨front, storagePath⟩ := exists_storagePath host
  have nothing (e : Fault) : TwinOutcomes (parent ++ ["storage.json"]) host.storagePath
      (failed host e) (failed { host with files := files' } e) :=
    ⟨rfl, rfl, rfl, rfl, .nil, rfl, .inr h⟩
  rw [runCommand_eq, runCommand_eq, settingsOf_congr h.differ]
  cases settingsOf host i.flags with
  | error e => exact nothing _
  | ok settings =>
    simp only
    cases Transport.new settings.baseAddress host.hasRoots with
    | error e => exact nothing _
    | ok transport =>
      have twins : TwinStates (parent ++ ["storage.json"]) host.storagePath
          (started host settings transport)
          (started { host with files := files' } settings transport) :=
        ⟨⟨⟨openStore_twins h settings, rfl, rfl, .nil⟩, rfl, rfl⟩, rfl, rfl, rfl⟩
      -- opening the storage reads nothing yet: the files of the state are those of the host
      have files (files : FileTree) : (started { host with files := files } settings
          transport).panel.line.store.files = files := files_openStore settings _ files
      simp only [act_withFiles]
      rw [storagePath] at twins ⊢
      refine (act_twins host settings i.command (by decide) (by decide) twins ?_).outcome
      intro file isSetConfig
      rw [files files', show (started host settings transport).panel.line.store.files = host.files from
        files host.files]
      exact sent file isSetConfig

/-- What is said of a command line that is refused does not depend on files. -/
theorem refused_twins (h : TwinFiles q path host.files files') (e : CommandLine.Fault) :
    TwinOutcomes q path (refused host e) (refused { host with files := files' } e) := by
  have all (exit : UInt32) (stdout stderr : String) : TwinOutcomes q path
      { exit := exit, stdout := stdout, stderr := stderr, files := host.files, peer := host.peer }
      { exit := exit, stdout := stdout, stderr := stderr, files := files', peer := host.peer } :=
    ⟨rfl, rfl, rfl, rfl, .nil, rfl, .inr h⟩
  unfold refused
  split <;> exact all _ _ _

/-- **A run over twin files** ends alike. -/
theorem run_twins (words : List String)
    (h : TwinFiles (parent ++ ["storage.json"]) (withVariables host).storagePath host.files files')
    (sent : ∀ file flags, CommandLine.parse words = .ok ⟨.setConfig file, flags⟩ →
      files'.readText (FileTree.pathOf host.directory file) =
        host.files.readText (FileTree.pathOf host.directory file)) :
    TwinOutcomes (parent ++ ["storage.json"]) (withVariables host).storagePath (run host words)
      (run { host with files := files' } words) := by
  unfold run
  cases parsed : CommandLine.parse words with
  | error e => exact refused_twins h e
  | ok i =>
    simp only [withVariables_congr h.differ]
    obtain ⟨command, flags⟩ := i
    exact runCommand_twins (withVariables host) h ⟨command, flags⟩
      fun file same => sent file flags (by rw [parsed, ← same])

end Runs

/-! ## Logins with other passwords -/

section Password

/-- Hosts that differ at most in the password: in its variable, and in what is typed at the terminal. -/
structure OtherPassword (host host' : Host) : Prop where
  files : host'.files = host.files
  directory : host'.directory = host.directory
  home : host'.home = host.home
  input : host'.input = host.input
  clock : host'.clock = host.clock
  hasRoots : host'.hasRoots = host.hasRoots
  peer : host'.peer = host.peer
  others : ∀ name, name ≠ passwordVariable →
    host'.environment.get? name = host.environment.get? name

namespace OtherPassword

variable {host' : Host} {password password' : String}

theorem directoryOf (h : OtherPassword host host') {name : String} (ne : name ≠ passwordVariable)
    (inHome : FilePath) : host'.directoryOf name inHome = host.directoryOf name inHome := by
  have home : host'.homeDirectory = host.homeDirectory := by
    rw [Host.homeDirectory, Host.homeDirectory, h.others "HOME" (by decide), h.directory, h.home]
  rw [Host.directoryOf, Host.directoryOf, h.others name ne, home]

theorem settingsPath (h : OtherPassword host host') : host'.settingsPath = host.settingsPath := by
  rw [Host.settingsPath, h.directoryOf (by decide), Host.settingsPath]

theorem storagePath (h : OtherPassword host host') : host'.storagePath = host.storagePath := by
  rw [Host.storagePath, h.directoryOf (by decide), Host.storagePath]

theorem settingsOf (h : OtherPassword host host') (flags : Flags) :
    settingsOf host' flags = settingsOf host flags := by
  rw [Program.settingsOf, Program.settingsOf, h.settingsPath, h.files,
    h.others Settings.addressVariable (by decide)]

theorem failed (h : OtherPassword host host') (e : Fault) : failed host' e = failed host e := by
  rw [Program.failed, Program.failed, h.files, h.peer]

theorem started (h : OtherPassword host host') (settings : Settings) (transport : Transport) :
    started host' settings transport = started host settings transport := by
  rw [Program.started, Program.started, h.storagePath, h.files, h.peer]

theorem accountText (h : OtherPassword host host') (settings : Settings) (given : Option String) :
    accountText host' settings given = accountText host settings given := by
  rw [Program.accountText, Program.accountText, Host.typedLine, h.input, Host.typedLine]

theorem saving (h : OtherPassword host host') (account : String) (store : Storage.Store) :
    saving host' account store = saving host account store := by
  rw [Program.saving, Program.saving, h.settingsPath, h.clock]

theorem recorded (h : OtherPassword host host') (account : String) (store : Storage.Store) :
    recorded host' account store = recorded host account store := by
  rw [Program.recorded, Program.recorded, h.saving]

theorem recordingWarnings (h : OtherPassword host host') (account : String) (store : Storage.Store) :
    recordingWarnings host' account store = recordingWarnings host account store := by
  rw [Program.recordingWarnings, Program.recordingWarnings, h.saving]

/-- The login command with another password: it does the same, but for the body of its one call. -/
theorem runAct_login (h : OtherPassword host host') (known : password? host = some password)
    (known' : password? host' = some password') (full : password ≠ "") (full' : password' ≠ "")
    (settings : Settings) (given : Option String) (s : State) :
    let r := runAct (login host settings given) s
    let r' := runAct (login host' settings given) s
    r' = r ∨
    ∃ (account : String) (c : Call), r.2.panel.line.calls = s.panel.line.calls ++ [c] ∧
      c.body = Page.loginBody account password ∧
      r' = (r.1, { r.2 with panel.line.calls := s.panel.line.calls ++
        [{ c with body := Page.loginBody account password' }] }) := by
  intro r r'
  have left : r = _ := Program.runAct_login host settings given s
  have right : r' = _ := Program.runAct_login host' settings given s
  simp only [known] at left
  simp only [known', h.accountText, h.recorded, h.recordingWarnings] at right
  rw [left, right]
  rcases Page.login_password (Program.accountText host settings given) full full' s.panel.line with
    refused | ⟨c, issued, body, other⟩
  · rw [refused]
    exact .inl rfl
  · -- the lines after the two logins differ in the call, and what follows does not read it
    rw [other]
    generalize runOn (Page.login (Program.accountText host settings given) password) s.panel.line = login
      at issued
    obtain ⟨f | user, l⟩ := login
    · exact .inr ⟨_, c, issued, body, rfl⟩
    · exact .inr ⟨_, c, issued, body, rfl⟩

end OtherPassword

/-- **The password of a login** shows in the body of its one call and nowhere else. -/
theorem runCommand_login_password {host' : Host} {password password' : String}
    (h : OtherPassword host host') (known : password? host = some password)
    (known' : password? host' = some password') (full : password ≠ "") (full' : password' ≠ "")
    (given : Option String) (flags : Flags) :
    let o := runCommand host ⟨.login given, flags⟩
    let o' := runCommand host' ⟨.login given, flags⟩
    o' = o ∨
    ∃ (account : String) (c : Call), o.calls = [c] ∧ c.body = Page.loginBody account password ∧
      o' = { o with calls := [{ c with body := Page.loginBody account password' }] } := by
  simp only
  -- before the login, nothing depends on the password
  rw [runCommand_eq, runCommand_eq, h.settingsOf, h.hasRoots]
  cases settingsOf host flags with
  | error e => exact .inl (h.failed _)
  | ok settings =>
    simp only
    cases Transport.new settings.baseAddress host.hasRoots with
    | error e => exact .inl (h.failed _)
    | ok transport =>
      simp only [h.started, act]
      rcases h.runAct_login known known' full full' settings given
        (started host settings transport) with same | ⟨account, c, issued, body, other⟩
      · rw [same]
        exact .inl rfl
      · rw [other]
        exact .inr ⟨account, c, issued, body, rfl⟩

end Password

/-! ## A storage file on the way -/

/-- A host whose storage file keeps a token. -/
def hostKeeping (token : String) : Host where
  files := FileTree.put ⟨[(["d"], .directory), (["d", "ocpanel"], .directory)]⟩
    ["d", "ocpanel", "storage.json"]
    (.file ⟨("\x7b\"token\":\"" ++ token ++ "\"\x7d").toUTF8.toList, true⟩)
  home := ["home", "u"]
  environment := [("XDG_DATA_HOME", "/d")]
  clock := default
  peer := .scripted [("SetConfig", [.messages [[]] (.status .ok "")])]

theorem storagePath_hostKeeping (token : String) :
    (withVariables (hostKeeping token)).storagePath = ["d", "ocpanel", "storage.json"] := by
  have named : FileTree.pathOf [] "/d" = ["d"] := by
    rw [FileTree.pathOf_eq]
    decide
  show FileTree.pathOf [] "/d" ++ ["ocpanel", "storage.json"] = _
  rw [named]
  rfl

theorem twinItems_token : Session.TwinItems [("token", "a")] [("token", "b")] := by
  refine ⟨fun other ne => ?_, .tokens ⟨by decide, by decide⟩ ⟨by decide, by decide⟩⟩
  have ne : other ≠ "token" := ne
  simp [Json.Members.find?, ne]

/-- The two files are twins. -/
theorem twinFiles_hostKeeping :
    TwinFiles ["d", "ocpanel", "storage.json"] (withVariables (hostKeeping "a")).storagePath
      (hostKeeping "a").files (hostKeeping "b").files := by
  have holds (token : String) (ok : token = "a" ∨ token = "b") :
      Storage.HoldsDocument (hostKeeping token).files ["d", "ocpanel", "storage.json"]
        [("token", token)] := by
    refine ⟨"\x7b\"token\":\"" ++ token ++ "\"\x7d", ?_, ?_⟩ <;>
      rcases ok with rfl | rfl <;> decide +kernel
  have differ : DifferAt ["d", "ocpanel", "storage.json"] (hostKeeping "a").files
      (hostKeeping "b").files := by
    refine ⟨⟨_, _, rfl, rfl⟩, fun p ne => ?_⟩
    rw [hostKeeping, hostKeeping, FileTree.node?_put_of_ne _ ne.symm,
      FileTree.node?_put_of_ne _ ne.symm]
  rw [storagePath_hostKeeping]
  exact ⟨differ, _, _, holds "a" (.inl rfl), holds "b" (.inr rfl), twinItems_token⟩

/-- A file that is sent arrives as it is. -/
theorem bodies_hostKeeping {token : String} (ok : token = "a" ∨ token = "b") :
    (run (hostKeeping token) ["set-config", "/d/ocpanel/storage.json"]).calls.map Call.body =
      [Message.SetConfigRequest.layout.write
        { content := "\x7b\"token\":\"" ++ token ++ "\"\x7d" }] := by
  have parsed : CommandLine.parse ["set-config", "/d/ocpanel/storage.json"] =
      .ok ⟨.setConfig "/d/ocpanel/storage.json", {}⟩ := by decide +kernel
  have sent : FileTree.pathOf [] "/d/ocpanel/storage.json" = ["d", "ocpanel", "storage.json"] := by
    rw [FileTree.pathOf_eq]
    decide
  have settings : settingsOf (withVariables (hostKeeping token)) {} = .ok {} := by
    unfold settingsOf
    rw [settingsPath_of_none rfl rfl]
    rcases ok with rfl | rfl <;> decide +kernel
  have transport : Transport.new ({} : Settings).baseAddress true =
      .ok ⟨"http://127.0.0.1:7777/backend", ⟨"http", "127.0.0.1:7777", "/backend"⟩⟩ := rfl
  have hasRoots : (withVariables (hostKeeping token)).hasRoots = true := rfl
  have directory : (withVariables (hostKeeping token)).directory = [] := rfl
  rw [run, parsed]
  simp only [runCommand_eq, settings, hasRoots, transport, act, runAct_setConfig, started,
    storagePath_hostKeeping, directory, sent]
  rcases ok with rfl | rfl <;> decide +kernel

/-! ## A password on the way -/

/-- A host whose environment file makes the address from the password. -/
def hostNaming (password : String) : Host where
  files := ⟨[([".env"],
    .file ⟨"OCPANEL_BASE_ADDRESS=$\x7bOCPANEL_PASSWORD\x7d".toUTF8.toList, false⟩)]⟩
  home := ["home", "u"]
  environment := [(passwordVariable, password)]
  clock := default

/-- An address that cannot be used is reported. -/
theorem stderr_hostNaming {password : String} (ok : password = "ftp://a" ∨ password = "ftp://b") :
    (run (hostNaming password) ["login", "a"]).stderr =
      "Error: Invalid server base address\n\nCaused by:\n    Unsupported scheme in base address \""
        ++ password ++ "\" (expected http or https)\n" := by
  have parsed : CommandLine.parse ["login", "a"] = .ok ⟨.login (some "a"), {}⟩ := by decide
  have full : (hostNaming password).fullEnvironment =
      [(passwordVariable, password), (Settings.addressVariable, password)] := by
    rcases ok with rfl | rfl <;> decide +kernel
  have settings : settingsOf (withVariables (hostNaming password)) {} =
      .ok { baseAddress := password } := by
    unfold settingsOf
    rw [withVariables, full, settingsPath_of_none rfl rfl]
    rcases ok with rfl | rfl <;> decide +kernel
  have hasRoots : (withVariables (hostNaming password)).hasRoots = true := rfl
  have unusable : Transport.new password true = .error (.unsupportedScheme password) := by
    rcases ok with rfl | rfl <;> decide +kernel
  have oneLine : (Address.Fault.unsupportedScheme password).message.splitOn "\n" =
      [(Address.Fault.unsupportedScheme password).message] := by
    rw [show ("\n" : String) = String.ofList ['\n'] from rfl, Text.splitOn_char]
    rcases ok with rfl | rfl <;> decide +kernel
  rw [run, parsed]
  simp only [runCommand_eq, settings, hasRoots, unusable, failed, complaint, Fault.report,
    Fault.causes, Address.Fault.causes, Fault.causesText, Fault.indented, oneLine]
  rcases ok with rfl | rfl <;> decide +kernel

/-! ## Both secrets -/

/-- **Secrets leave only where they should.**

Steps of a panel answer alike over storages that keep different tokens, and leave such storages; what the
peer has recorded differs in the header alone. All parts of the panel are listed alike, and so is the storage,
unless it keeps its items in memory. A run of the program over files that keep different tokens ends alike,
with the same settings, if the file that it is told to send is the same. Logins with different passwords,
from the environment or typed, differ in the body of their one call, if no other variable is made from the
password. -/
theorem secrets_stay_in_place :
    (∀ (q path : FilePath) (p p' : Panel) (clock : Page.Clock) (steps : List Panel.Step),
      let r := p.run clock steps
      let r' := p'.run clock steps
      Panel.Twins q path p p' → (∀ s ∈ steps, s.Discreet) →
        Panel.TwinOutcomes q path r r' ∧
        r'.2.listings = r.2.listings ∧
        ((∀ items, r.2.line.store.place ≠ .memory items) →
          r'.2.line.store.place.listing? = r.2.line.store.place.listing?)) ∧
    (∀ (host : Host) (parent : FilePath) (files' : FileTree) (words : List String),
      let h := withVariables host
      let o := run host words
      let o' := run { host with files := files' } words
      TwinFiles (parent ++ ["storage.json"]) h.storagePath host.files files' →
      (∀ file flags, CommandLine.parse words = .ok ⟨.setConfig file, flags⟩ →
        let sent := FileTree.pathOf host.directory file
        files'.readText sent = host.files.readText sent) →
        TwinOutcomes (parent ++ ["storage.json"]) h.storagePath o o' ∧
        o'.files.look h.settingsPath = o.files.look h.settingsPath) ∧
    (∀ (p : Panel) (clock : Page.Clock) (account password password' : String),
      let r := p.step clock (.login account password)
      let r' := p.step clock (.login account password')
      password ≠ "" → password' ≠ "" →
        r' = r ∨
        ∃ c : Call, r.2.line.calls = p.line.calls ++ [c] ∧
          c.body = Page.loginBody account password ∧
          r' = (r.1, { r.2 with line := { r.2.line with
            calls := p.line.calls ++ [{ c with body := Page.loginBody account password' }] } })) ∧
    (∀ (host : Host) (environment : Environment) (typed : Option String) (words : List String)
      (given : Option String) (flags : Flags) (password password' : String),
      let host' := { host with environment := environment, typedPassword := typed }
      let h := withVariables host
      let h' := withVariables host'
      let o := run host words
      let o' := run host' words
      CommandLine.parse words = .ok ⟨.login given, flags⟩ →
      password? h = some password → password? h' = some password' → password ≠ "" → password' ≠ "" →
      (∀ name, name ≠ passwordVariable → h'.environment.get? name = h.environment.get? name) →
        o' = o ∨
        ∃ (account : String) (c : Call), o.calls = [c] ∧
          c.body = Page.loginBody account password ∧
          o' = { o with calls := [{ c with body := Page.loginBody account password' }] }) := by
  refine ⟨?_, ?_, ?_, ?_⟩
  · intro q path p p' clock steps r r' twins discreet
    have ended : Panel.TwinOutcomes q path r r' := Panel.run_twins clock steps discreet twins
    refine ⟨ended, ?_, fun elsewhere => ended.panel.line.store.place.listing? elsewhere⟩
    unfold Panel.listings
    rw [ended.panel.line.transport, ended.panel.current]
    rfl
  · intro host parent files' words h o o' twins sent
    have ended : TwinOutcomes (parent ++ ["storage.json"]) h.storagePath o o' :=
      run_twins words twins sent
    refine ⟨ended, ?_⟩
    -- the settings file has another name than the storage file, where alone the trees differ
    rcases ended.files with same | twins
    · rw [same]
    · obtain ⟨front, settingsPath⟩ := exists_settingsPath h
      rw [settingsPath]
      exact twins.differ.look_of_name (by decide) (by decide)
  · intro p clock account password password' r r' full full'
    simp only [r, r']
    exact Panel.step_login_password account full full' clock p
  · intro host environment typed words given flags password password' host' h h' o o' parsed known known'
      full full' others
    have run_eq (host : Host) :
        run host words = runCommand (withVariables host) ⟨.login given, flags⟩ := by
      rw [run, parsed]
    have other : OtherPassword h h' := ⟨rfl, rfl, rfl, rfl, rfl, rfl, rfl, others⟩
    have o_eq : o = runCommand h ⟨.login given, flags⟩ := run_eq host
    have o'_eq : o' = runCommand h' ⟨.login given, flags⟩ := run_eq host'
    rw [o_eq, o'_eq]
    exact runCommand_login_password other known known' full full' given flags

/-- A question that is answered with either token, the status over either file, and a login with either
password. -/
theorem secrets_stay_in_place_status :
    let panel (token : String) : Panel := ⟨⟨⟨.memory [("token", token)], {}⟩,
      ⟨"http://h", ⟨"http", "h", ""⟩⟩, .scripted [], []⟩, none, none⟩
    let steps := [Panel.Step.isAuthenticated, .unban 5]
    let typing (password : String) : Host :=
      { home := ["home", "u"], typedPassword := some password, clock := default }
    ((panel "a").run default steps).2.line.calls.map Call.credentials = [["Bearer a"]] ∧
    ((panel "b").run default steps).1 = ((panel "a").run default steps).1 ∧
    (run (hostKeeping "b") ["status"]).stdout = (run (hostKeeping "a") ["status"]).stdout ∧
    ((panel "a").step default (.login "u" "q")).1 = ((panel "a").step default (.login "u" "p")).1 ∧
    (run (typing "q") ["login", "u"]).stderr = (run (typing "p") ["login", "u"]).stderr := by
  intro panel steps typing
  have twins : Panel.Twins [] [] (panel "a") (panel "b") :=
    ⟨⟨⟨.memory twinItems_token, .inl rfl⟩, rfl, rfl, .nil⟩, rfl, rfl⟩
  have discreet : ∀ s ∈ steps, s.Discreet := by
    rintro s hs
    rcases List.mem_cons.mp hs with rfl | hs
    · trivial
    · rw [List.mem_singleton.mp hs]
      trivial
  obtain ⟨ofSteps, ofFiles, ofLogin, ofPassword⟩ := secrets_stay_in_place
  have parsed : CommandLine.parse ["login", "u"] = .ok ⟨.login (some "u"), {}⟩ := by decide
  refine ⟨by decide +kernel, (ofSteps [] [] _ _ default steps twins discreet).1.answer, ?_, ?_, ?_⟩
  · have status : CommandLine.parse ["status"] = .ok ⟨.status, {}⟩ := by decide
    refine (ofFiles (hostKeeping "a") ["d", "ocpanel"] (hostKeeping "b").files ["status"]
      twinFiles_hostKeeping fun file flags other => ?_).1.stdout
    rw [status] at other
    cases other
  · rcases ofLogin (panel "a") default "u" "p" "q" (by decide) (by decide) with same | ⟨c, -, -, same⟩
    · rw [same]
    · rw [same]
  · rcases ofPassword (typing "p") [] (some "q") ["login", "u"] (some "u") {} "p" "q" parsed
      (by decide) (by decide) (by decide) (by decide) (fun _ _ => rfl) with same | ⟨account, c, -, -, same⟩
    · have stderr := congrArg Outcome.stderr same
      exact stderr
    · have stderr := congrArg Outcome.stderr same
      exact stderr

/-- A token arrives in the body of a call that is made to send the storage file, and a password stands in
the output if the environment file makes the address from it. A storage in memory is listed with its
token. -/
theorem secrets_named :
    (TwinFiles ["d", "ocpanel", "storage.json"] (withVariables (hostKeeping "a")).storagePath
        (hostKeeping "a").files (hostKeeping "b").files ∧
      let words := ["set-config", "/d/ocpanel/storage.json"]
      (run (hostKeeping "b") words).calls.map Call.body ≠
        (run (hostKeeping "a") words).calls.map Call.body) ∧
    (run (hostNaming "ftp://b") ["login", "a"]).stderr ≠
      (run (hostNaming "ftp://a") ["login", "a"]).stderr ∧
    let store (token : String) : Storage.Store := ⟨.memory [("token", token)], {}⟩
    Twins [] [] (store "a") (store "b") ∧
      (store "b").place.listing? ≠ (store "a").place.listing? := by
  refine ⟨⟨twinFiles_hostKeeping, ?_⟩, ?_, ⟨.memory twinItems_token, .inl rfl⟩, by decide +kernel⟩
  · simp only
    rw [bodies_hostKeeping (.inl rfl), bodies_hostKeeping (.inr rfl)]
    decide +kernel
  · rw [stderr_hostNaming (.inl rfl), stderr_hostNaming (.inr rfl)]
    decide +kernel

end Program

end AdminPanel
