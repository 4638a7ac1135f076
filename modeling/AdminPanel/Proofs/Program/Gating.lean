import AdminPanel.Proofs.FileTree.Replacing
import AdminPanel.Proofs.Program.Doing

/-!
# The guard in front of every command

What a command may ask of the server, by whether there is a session. A command that belongs to a
page goes there first, so that without a session it ends before it reads or sends anything
(`runAct_guarded`); opening a page ends at the login page (`runAct_openPage_closed`); and what is
asked at all is what the page of the command asks (`issues_act`). `run_gated` says so of whole runs,
from the words of the command line on.
-/

namespace AdminPanel

open Rpc

/-- The page that guards a command. Logging in, opening a page and what only looks at the storage
or at nothing have none. -/
def Command.guardedBy? : Command → Option Route
  | .setStatus .. | .announce .. => some .services
  | .ban .. | .unban _ | .deleteAccount _ => some .users
  | .getConfig | .setConfig _ => some .config
  | .login _ | .logout | .status | .routes | .openPage .. => none

/-- The page that a command belongs to: the one that guards it, or the one that it opens. -/
def Command.page? : Command → Option Route
  | .login _ => some .login
  | .openPage path _ => Route.resolve path
  | command => command.guardedBy?

/-- All that a page may ask: what loading it asks, and what is done on it. -/
def Page.endpoints (route : Route) : List Endpoint :=
  loadPlan route ++ match route with
    | .login => [Method.auth.endpoint]
    | .services => Method.setServerStatus.endpoint :: announcePlan
    | .users => [Method.banUser.endpoint, Method.unbanUser.endpoint, Method.deleteAccount.endpoint]
    | .config => [Method.getConfig.endpoint, Method.setConfig.endpoint]
    | .dashboard | .monitor | .logs => []

/-- What a command asks that does not open a page. -/
def Command.plan : Command → List Endpoint
  | .login _ => [Method.auth.endpoint]
  | .setStatus .. => [Method.setServerStatus.endpoint]
  | .ban .. => [Method.banUser.endpoint]
  | .unban _ => [Method.unbanUser.endpoint]
  | .deleteAccount _ => [Method.deleteAccount.endpoint]
  | .announce .. => Page.announcePlan
  | .getConfig => [Method.getConfig.endpoint]
  | .setConfig _ => [Method.setConfig.endpoint]
  | .logout | .status | .routes | .openPage .. => []

namespace Program

/-! ## Commands without a session -/

variable {host : Host} {settings : Settings} {s : State}

/-- An act that goes to a page first ends there without a session. -/
theorem runAct_enter_bind_of_closed {α : Type} {route : Route} (needed : route ≠ .login)
    (closed : Session.isOpen s.panel.line.store = false) (rest : Unit → Act α) :
    runAct (enter route >>= rest) s =
      (.error (.notLoggedIn route.path), s.sentAway route.path) := by
  have shut : ¬ (route = .login ∨ Session.isOpen s.panel.line.store = true) := by
    simp [needed, closed]
  rw [runAct_bind, runAct_enter, if_neg shut]

/-- **A guarded command without a session ends at the guard**: nothing has been read, sent or
written, and the login page is the current one. If the storage could not be read, this is logged. -/
theorem runAct_guarded (host : Host) (settings : Settings) {command : Command} {route : Route}
    (guarded : command.guardedBy? = some route)
    (closed : Session.isOpen s.panel.line.store = false) :
    runAct (act host settings command) s =
      (.error (.notLoggedIn route.path), s.sentAway route.path) := by
  cases command with
  | login | logout | status | routes | openPage => cases guarded
  | setStatus | announce | ban | unban | deleteAccount | getConfig | setConfig =>
    cases guarded
    exact runAct_enter_bind_of_closed (by decide) closed _

/-- Without a session every path leads to the login page, which is shown; no path is unknown. -/
theorem runAct_openPage_closed (host : Host) (path : String) (json : Bool)
    (closed : Session.isOpen s.panel.line.store = false) :
    (∀ f, (runAct (openPage host path json) s).1 ≠ .error (.navigation f)) ∧
      s.panel.line.Extends [Method.getServerInfo.endpoint]
        (runAct (openPage host path json) s).2.panel.line := by
  obtain ⟨n, hgo, login⟩ :
      ∃ n, Navigation.go s.panel.line.store path = .ok n ∧ n.route = .login := by
    refine ⟨_, Navigation.go_of_closed closed path, ?_⟩
    split <;> rfl
  rw [runAct_openPage, hgo]
  constructor
  · intro f failed
    obtain ⟨f', rpc⟩ := display_fault (Prod.ext failed rfl)
    cases rpc
  · have shown := does_display host json n
    rw [login] at shown
    exact shown (s.opens path n)

/-! ## What a command asks -/

theorem does_accountOf (host : Host) (settings : Settings) (given : Option String) :
    Does [] (accountOf host settings given) := by
  unfold accountOf
  split
  · exact .pure _
  · exact (does_say _).quiet_bind fun _ => .pure _

theorem does_passwordOf (host : Host) : Does [] (passwordOf host) := by
  unfold passwordOf
  cases password? host with
  | none => exact .throw _
  | some password => exact .pure _

theorem recordLogin_calls (host : Host) (account : String) (s : State) :
    (runAct (recordLogin host account) s).2.panel.line.calls = s.panel.line.calls := by
  simp only [recordLogin, runAct_modify]
  split <;> rfl

theorem does_showStatus (settings : Settings) : Does [] (showStatus settings) := by
  refine does_get.quiet_bind fun s => ?_
  cases Session.token s.panel.line.store with
  | error e => exact .throw _
  | ok token =>
    refine (does_sayLine _).quiet_bind fun _ => (does_sayLine _).quiet_bind fun _ =>
      (does_sayLine _).quiet_bind fun _ => ?_
    cases settings.lastAccount with
    | none => exact .pure _
    | some account => exact does_sayLine _

/-- A command that neither opens a page nor logs in or out does nothing to the line but make the calls
of its plan. -/
theorem does_act (host : Host) (settings : Settings) {command : Command}
    (noLogin : ∀ account, command ≠ .login account) (noLogout : command ≠ .logout)
    (other : ∀ path json, command ≠ .openPage path json) :
    Does command.plan (act host settings command) := by
  -- a command with a page enters it first and calls afterwards, so that each is the same two binds
  cases command with
  | login account => exact absurd rfl (noLogin account)
  | logout => exact absurd rfl noLogout
  | status => exact does_showStatus settings
  | routes => exact does_say _
  | openPage path json => exact absurd rfl (other path json)
  | setStatus status reason =>
    exact (does_enter _).quiet_bind fun _ =>
      (does_call (Page.asks_setStatus status reason)).bind_quiet fun _ => does_sayLine _
  | ban user seconds reason =>
    refine (does_enter _).quiet_bind fun _ =>
      (does_call (Page.asks_ban user _ reason)).bind_quiet fun _ => ?_
    cases seconds <;> exact does_sayLine _
  | unban user =>
    exact (does_enter _).quiet_bind fun _ =>
      (does_call (Page.asks_unban user)).bind_quiet fun _ => does_sayLine _
  | deleteAccount user =>
    exact (does_enter _).quiet_bind fun _ =>
      (does_call (Page.asks_deleteAccount user)).bind_quiet fun _ => does_sayLine _
  | announce title content =>
    exact (does_enter _).quiet_bind fun _ =>
      (does_call (Page.asks_announce title content)).bind_quiet fun _ => does_sayLine _
  | getConfig =>
    exact (does_enter _).quiet_bind fun _ =>
      (does_call Page.asks_loadConfigText).bind_quiet fun _ => does_sayLine _
  | setConfig file =>
    refine (does_enter _).quiet_bind fun _ => does_get.quiet_bind fun s => ?_
    simp only
    split
    · exact .throw _
    · next content _ =>
      exact (does_call (Page.asks_setConfig content)).bind_quiet fun _ => does_sayLine _

/-- **What a command asks.** Only the guarded commands and the login make calls beside opening a
page, each those of its plan. -/
theorem issues_act (host : Host) (settings : Settings) (command : Command)
    (other : ∀ path json, command ≠ .openPage path json) :
    Issues command.plan (act host settings command) := by
  cases command with
  | login account =>
    refine .quiet_bind (does_enter .login) fun _ => ?_
    refine .quiet_bind (does_accountOf host settings account) fun account => ?_
    refine .quiet_bind (does_passwordOf host) fun password => ?_
    have called : Issues [Method.auth.endpoint] (onLine .login (Page.login account password)) :=
      issues_of_stepped .login (Panel.stepped_login account password none)
    -- what comes after the call is written to files, not sent
    refine called.bind_still fun user s => ?_
    rw [runAct_bind]
    exact recordLogin_calls host (Text.trim account) s
  | logout =>
    have cleared : Issues [] (onLine .clearToken Page.logout) :=
      issues_of_stepped .clearToken (Panel.stepped_logout none)
    exact cleared.bind_still fun _ _ => rfl
  | status | routes | openPage | setStatus | ban | unban | deleteAccount | announce | getConfig
  | setConfig =>
    exact (does_act host settings (by simp) (by simp) other).issues

/-- A command without a plan makes no call. -/
theorem calls_of_plan_nil (host : Host) (settings : Settings) {command : Command}
    (other : ∀ path json, command ≠ .openPage path json) (silent : command.plan = []) :
    (runAct (act host settings command) s).2.panel.line.calls = s.panel.line.calls := by
  obtain ⟨issued, hcalls, short, -⟩ := issues_act host settings command other s
  rw [silent] at short
  have none : issued = [] := List.length_eq_zero_iff.mp (Nat.le_zero.mp short)
  rw [hcalls, none, List.append_nil]

/-- What opening a page asks with a session: what the page of the path asks, and nothing where the
path leads nowhere. -/
theorem openPage_open (host : Host) (path : String) (json : Bool)
    (open_ : Session.isOpen s.panel.line.store = true) :
    s.panel.line.Extends ((Route.resolve path).elim [] Page.loadPlan)
      (runAct (openPage host path json) s).2.panel.line := by
  rw [runAct_openPage, Navigation.go_of_open open_]
  cases Route.resolve path with
  | none => exact .refl _ _
  | some route =>
    exact does_display host json (.allowed route) (s.opens path (.allowed route))

/-- What a command asks is what its page may ask. -/
theorem plan_subset (command : Command) :
    ∀ e ∈ command.plan, ∃ route ∈ command.page?, e ∈ Page.endpoints route := by
  cases command with
  | login | setStatus | ban | unban | deleteAccount | announce | getConfig | setConfig =>
    intro e he
    refine ⟨_, rfl, ?_⟩
    revert e
    simp only [Command.plan]
    decide
  | logout | status | routes | openPage => simp [Command.plan]

/-- With a session, whatever a command records is one of the calls of its page. -/
theorem made_for_page (host : Host) (settings : Settings) (command : Command)
    (opened : Session.isOpen s.panel.line.store = true) :
    ∃ issued, (runAct (act host settings command) s).2.panel.line.calls
        = s.panel.line.calls ++ issued ∧
      ∀ c ∈ issued, ∃ route ∈ command.page?, ∃ e ∈ Page.endpoints route, Made s.panel.line e c := by
  -- which page is opened depends on the path that is asked for, and so do its endpoints
  by_cases opens : ∃ path json, command = .openPage path json
  · obtain ⟨path, json, rfl⟩ := opens
    obtain ⟨issued, hcalls, -, hmade⟩ := (openPage_open host path json opened).exists_issued
    refine ⟨issued, hcalls, fun c hc => ?_⟩
    obtain ⟨e, he, made⟩ := hmade c hc
    show ∃ route ∈ Route.resolve path, _
    cases hpath : Route.resolve path with
    | none => simp [hpath] at he
    | some route =>
      rw [hpath] at he
      exact ⟨route, rfl, e, List.mem_append_left _ he, made⟩
  · have other : ∀ path json, command ≠ .openPage path json :=
      fun path json same => opens ⟨path, json, same⟩
    obtain ⟨issued, hcalls, -, hmade⟩ := issues_act host settings command other s
    refine ⟨issued, hcalls, fun c hc => ?_⟩
    obtain ⟨e, he, made⟩ := hmade c hc
    obtain ⟨route, hroute, hmem⟩ := plan_subset command e he
    exact ⟨route, hroute, e, hmem, made⟩

/-! ## Whole runs -/

/-- A panel is a fresh line to the address of the settings, over the storage that they name. -/
theorem panelOf_eq (host : Host) (settings : Settings) :
    panelOf host settings =
      match Transport.new settings.baseAddress host.hasRoots with
      | .error e => .error e
      | .ok transport => .ok { line := {
          store := settings.openStore host.storagePath host.files
          transport := transport
          peer := host.peer } } := by
  unfold panelOf
  simp only [Cell.shared, Registry.new]
  cases Transport.new settings.baseAddress host.hasRoots <;> rfl

theorem panelOf_eq_ok_iff {panel : Panel} :
    panelOf host settings = .ok panel ↔
      ∃ transport, Transport.new settings.baseAddress host.hasRoots = .ok transport ∧ panel = { line := {
        store := settings.openStore host.storagePath host.files
        transport := transport
        peer := host.peer } } := by
  rw [panelOf_eq]
  cases Transport.new settings.baseAddress host.hasRoots with
  | error e => simp
  | ok transport => simp [eq_comm]

theorem panelOf_of_prepare {flags : Flags} {panel : Panel}
    (h : prepare host flags = .ok (settings, panel)) : panelOf host settings = .ok panel := by
  unfold prepare at h
  cases hs : settingsOf host flags with
  | error e => simp [hs, Except.mapError, Bind.bind, Except.bind] at h
  | ok settings' =>
    cases hp : panelOf host settings' with
    | error e => simp [hs, hp, Except.mapError, Bind.bind, Except.bind] at h
    | ok panel' =>
      simp only [hs, hp, Except.mapError, Bind.bind, Except.bind, pure, Except.pure,
        Except.ok.injEq, Prod.mk.injEq] at h
      obtain ⟨rfl, rfl⟩ := h
      exact hp

theorem calls_of_prepare {flags : Flags} {panel : Panel}
    (h : prepare host flags = .ok (settings, panel)) : panel.line.calls = [] := by
  obtain ⟨transport, -, rfl⟩ := panelOf_eq_ok_iff.mp (panelOf_of_prepare h)
  rfl

theorem run_eq {words : List String} {i : CommandLine.Invocation} {panel : Panel}
    (parsed : CommandLine.parse words = .ok i)
    (prepared : prepare (withVariables host) i.flags = .ok (settings, panel)) :
    run host words =
      outcomeOf (runAct (act (withVariables host) settings i.command) { panel := panel }).1
        (runAct (act (withVariables host) settings i.command) { panel := panel }).2 := by
  simp only [run, parsed, runCommand, prepared]
  rfl

/-- **No command asks the server for more than its page, and none gets past the guard without a
session.**

Let the command line name a command, and let the settings and the environment give a panel.
Without a token that can be read, every guarded command ends with the report that nobody is logged
in, and opening a page, whatever the path, shows the login page or fails in its one call, which
carries no credential. A login makes at most the one call that exchanges the password; logging
out, the status and the list of pages make none. With a token, every call is one that the page of
the command may make. -/
theorem run_gated {host : Host} {words : List String} {i : CommandLine.Invocation}
    {settings : Settings} {panel : Panel} (parsed : CommandLine.parse words = .ok i)
    (prepared : prepare (withVariables host) i.flags = .ok (settings, panel)) :
    ∃ result s, runAct (act (withVariables host) settings i.command) { panel := panel }
        = (result, s) ∧ run host words = outcomeOf result s ∧
      (¬ Session.HasToken panel.line.store →
        (∀ route, i.command.guardedBy? = some route →
          result = .error (.notLoggedIn route.path) ∧ (run host words).calls = [] ∧
          (run host words).exit = 1 ∧
          (run host words).stderr = (Fault.notLoggedIn route.path).report ∧
          (run host words).log = navigationWarnings panel.line.store route.path) ∧
        (∀ path json, i.command = .openPage path json →
          (∀ f, result ≠ .error (.navigation f)) ∧
          ((run host words).calls = [] ∨ ∃ c, (run host words).calls = [c] ∧
            Made panel.line Method.getServerInfo.endpoint c ∧ c.credentials = []))) ∧
      (∀ account, i.command = .login account →
        (run host words).calls = [] ∨ ∃ c, (run host words).calls = [c] ∧
          Made panel.line Method.auth.endpoint c) ∧
      (i.command ∈ [.logout, .status, .routes] → (run host words).calls = []) ∧
      (Session.HasToken panel.line.store → ∀ c ∈ (run host words).calls,
        ∃ route ∈ i.command.page?, ∃ e ∈ Page.endpoints route, Made panel.line e c) := by
  obtain ⟨command, flags⟩ := i
  let started : State := { panel := panel }
  have fresh : started.panel.line.calls = [] := calls_of_prepare prepared
  have whole := run_eq parsed prepared
  refine ⟨(runAct (act (withVariables host) settings command) started).1,
    (runAct (act (withVariables host) settings command) started).2, rfl, whole, ?_, ?_, ?_, ?_⟩
  -- without a session
  · intro none
    have closed : Session.isOpen started.panel.line.store = false :=
      Bool.eq_false_iff.mpr fun opened => none (Session.isOpen_iff_hasToken.mp opened)
    constructor
    · intro route guarded
      have ended := runAct_guarded (withVariables host) settings guarded closed
      rw [whole, ended]
      exact ⟨rfl, fresh, rfl, rfl, rfl⟩
    · rintro path json rfl
      obtain ⟨known, asked⟩ := runAct_openPage_closed (withVariables host) path json closed
      refine ⟨known, ?_⟩
      rw [whole]
      rcases eq_nil_or_singleton fresh asked.exists_issued with nothing | ⟨c, single, made⟩
      · exact .inl nothing
      · refine .inr ⟨c, single, made, ?_⟩
        -- a credential would be the token that there is not
        cases made.credited with
        | token t stored nonempty => exact absurd ⟨t, stored, nonempty⟩ none
        | nothing _ sent => exact sent
  -- logging in
  · rintro account rfl
    rw [whole]
    exact eq_nil_or_singleton fresh
      (issues_act (withVariables host) settings (.login account) (by simp) started)
  -- commands that ask nothing
  · intro quiet
    rw [whole]
    have silent : command.plan = [] := by
      simp only [List.mem_cons, List.not_mem_nil, or_false] at quiet
      rcases quiet with rfl | rfl | rfl <;> rfl
    have other : ∀ path json, command ≠ .openPage path json := by
      rintro path json rfl
      simp at quiet
    exact (calls_of_plan_nil (withVariables host) settings other silent).trans fresh
  -- with a session
  · intro token c hc
    rw [whole] at hc
    have opened := Session.isOpen_iff_hasToken.mpr token
    obtain ⟨issued, hcalls, hmade⟩ := made_for_page (s := started) (withVariables host) settings
      command opened
    rw [fresh, List.nil_append] at hcalls
    exact hmade c (hcalls ▸ hc)

/-- Where nothing is stored, lifting a ban reaches nobody, and the report says why. -/
theorem run_gated_unban :
    let host : Host := { clock := default }
    let words := ["--storage", "memory", "unban", "7"]
    (run host words).calls = [] ∧ (run host words).exit = 1 ∧
      (run host words).stderr = (Fault.notLoggedIn "/users").report ∧
      (run host words).log = [] := by
  intro host words
  have parsed : CommandLine.parse words = .ok ⟨.unban 7, ⟨none, some .memory, none⟩⟩ := by decide
  let panel : Panel := ⟨⟨⟨.memory [], {}⟩, ⟨"http://127.0.0.1:7777/backend",
    ⟨"http", "127.0.0.1:7777", "/backend"⟩⟩, .unreachable, []⟩, none, none⟩
  have prepared : prepare (withVariables host) ⟨none, some .memory, none⟩
      = .ok ({ backend := .memory }, panel) := by
    have missing : host.files.hasNode host.settingsPath = false := by
      rw [Host.settingsPath, List.append_cons]
      exact FileTree.hasNode_empty _ (by decide) (by decide)
    have loaded : settingsOf host ⟨none, some .memory, none⟩ = .ok { backend := .memory } := by
      rw [settingsOf, Settings.load, missing]
      rfl
    have same : withVariables host = host := by rfl
    unfold prepare
    rw [same, loaded]
    rfl
  -- a storage in memory starts without a token, so that the command is sent away
  have none : ¬ Session.HasToken panel.line.store := by
    rintro ⟨t, stored, -⟩
    cases stored
  obtain ⟨result, s, -, -, closed, -⟩ := run_gated parsed prepared
  exact ((closed none).1 .users rfl).2

end Program

end AdminPanel
