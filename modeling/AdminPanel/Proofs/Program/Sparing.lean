import AdminPanel.Proofs.Panel.Keeping
import AdminPanel.Proofs.Panel.Navigating
import AdminPanel.Proofs.Program.Overriding

/-!
# Only logging in and out touches the credential

Whatever is done on a panel, by its steps or by commands, and whatever the peer answers to it: the storage
stays as it is, unless a session is begun or ended and that succeeds, and then everything but the token
stays. The current page is the one that the deed itself went to, if it went anywhere; no reply changes it.

* **`Deed`** — a command, or anything that happens to a panel.
* **`Deed.Spares`** — what a deed leaves of the storage and of the current page; every deed that is one of
  the panel does so (`spares_after`).
* **`storage_of_run`** — along a whole run of deeds, and for whole runs of the program.
-/

namespace AdminPanel

open Rpc
open Storage (Store NamedFile)
open Session (tokenName)

/-- A storage that changes what it holds keeps the name of its file. -/
theorem Storage.namedFile_of_emptied {name : String} {store store' : Store} (named : NamedFile name store)
    (same : store'.place.emptied = store.place.emptied) : NamedFile name store' := by
  obtain ⟨place, files⟩ := store
  obtain ⟨place', files'⟩ := store'
  rintro path rfl
  cases place with
  | file path' =>
    cases same
    exact named path rfl
  | memory | keychain | refusing => cases same

/-- The path to which a command goes: that of the page that guards it, or of the page that it opens. -/
def Command.goesTo? : Command → Option String
  | .login _ => some Route.login.path
  | .openPage path _ => some path
  | command => command.guardedBy?.map Route.path

/-- A command that begins or ends a session. -/
def Command.IsSession : Command → Prop
  | .login _ | .logout => True
  | _ => False

namespace Program

variable {α β ε : Type} {host : Host} {settings : Settings} {s s' : State}

/-! ## The current page -/

/-- Nothing that is done on the line goes to a page. -/
theorem leaves_current_onLine (ofFault : ε → Fault) (act : ExceptT ε (StateM Line) α) :
    Leaves (·.panel.current) (onLine ofFault act) := by
  intro s
  rw [runAct_onLine]

theorem leaves_current_say (text : String) : Leaves (·.panel.current) (say text) := fun _ => rfl

theorem leaves_current_display (host : Host) (json : Bool) (n : Navigation) :
    Leaves (·.panel.current) (display host json n) := by
  have loads : Leaves (·.panel.current) (do
      let data ← call (Page.load host.clock n.route)
      if json then sayLine data.value.print else say data.text) :=
    leaves_shown (leaves_current_onLine _) leaves_current_say host.clock n.route json
  cases n with
  | allowed r => exact loads
  | redirected requested landing => exact Leaves.bind (fun _ => rfl) fun _ => loads

/-- What goes to a page first, and stays there, leaves the page that the guard has let it come to. -/
theorem current_of_enter (route : Route) {rest : Unit → Act α}
    (stays : ∀ u, Leaves (·.panel.current) (rest u)) (s : State) :
    (runAct (enter route >>= rest) s).2.panel.current =
      Navigation.currentAfter s.panel.current (Navigation.go s.panel.line.store route.path) := by
  rw [runAct_bind, runAct_enter, Navigation.go_path]
  by_cases allowed : route = .login ∨ Session.isOpen s.panel.line.store
  · rw [if_pos allowed, if_pos allowed]
    exact stays () _
  · rw [if_neg allowed, if_neg allowed]
    rfl

/-- A call, and what is said about it. -/
theorem leaves_current_called {ofFault : ε → Fault} {act : ExceptT ε (StateM Line) α} (text : α → String) :
    Leaves (·.panel.current) (onLine ofFault act >>= fun a => sayLine (text a)) :=
  (leaves_current_onLine ofFault act).bind fun _ => leaves_current_say _

/-- **The current page after a command** is the one that it went to. -/
theorem current_of_act (host : Host) (settings : Settings) (command : Command) (s : State) :
    (runAct (act host settings command) s).2.panel.current =
      Navigation.currentVia s.panel.line.store s.panel.current command.goesTo? := by
  -- the route is set where a command enters its page, and no command sets it twice
  cases command with
  | login given =>
    rw [Command.goesTo?, Navigation.currentVia, Navigation.go_path, if_pos (.inl rfl)]
    exact (login_leaves host settings given s).1
  | logout => exact leaves_current_called (fun _ => "Logged out") s
  | status => exact leaves_showStatus leaves_current_say settings s
  | routes => rfl
  | openPage path json =>
    show (runAct (openPage host path json) s).2.panel.current = _
    rw [Command.goesTo?, Navigation.currentVia, runAct_openPage]
    cases Navigation.go s.panel.line.store path with
    | error e => rfl
    | ok n => exact leaves_current_display host json n _
  | setStatus | unban | deleteAccount | announce | getConfig =>
    exact current_of_enter _ (fun _ => leaves_current_called _) s
  | ban user seconds reason =>
    refine current_of_enter .users (fun _ => (leaves_current_onLine _ _).bind fun _ => ?_) s
    cases seconds <;> exact leaves_current_say _
  | setConfig file =>
    refine current_of_enter .config (fun _ => Leaves.bind (fun _ => rfl) fun s => ?_) s
    simp only
    split
    · exact fun _ => rfl
    · exact leaves_current_called _

/-! ## The storage after a command -/

theorem runAct_logout (s : State) :
    runAct logout s = match Session.finish s.panel.line.store with
      | .error e => (.error (.clearToken e), s)
      | .ok store =>
        (.ok (), { s with panel.line.store := store, stdout := s.stdout ++ ("Logged out" ++ "\n") }) := by
  unfold logout
  rw [runAct_bind, runAct_onLine, Page.runOn_logout]
  cases Session.finish s.panel.line.store <;> rfl

/-- A command that neither logs in nor out leaves the storage and the files around it. -/
theorem store_of_act (host : Host) (settings : Settings) {command : Command}
    (noLogin : ∀ given, command ≠ .login given) (noLogout : command ≠ .logout) (s : State) :
    (runAct (act host settings command) s).2.panel.line.store = s.panel.line.store := by
  by_cases opens : ∃ path json, command = .openPage path json
  · obtain ⟨path, json, rfl⟩ := opens
    show (runAct (openPage host path json) s).2.panel.line.store = _
    rw [runAct_openPage]
    cases Navigation.go s.panel.line.store path with
    | error e => rfl
    | ok n => exact (does_display host json n _).store
  · have other : ∀ path json, command ≠ .openPage path json :=
      fun path json same => opens ⟨path, json, same⟩
    exact (does_act host settings noLogin noLogout other s).store

/-- Recording a login leaves the items of a storage whose file can be found. -/
theorem get_of_recorded {store : Store} (named : NamedFile "storage.json" store)
    (found : ∀ path, store.place = .file path → ∃ n, store.files.look path = .ok n)
    (host : Host) (account name : String) :
    (recorded host account store).get name = store.get name := by
  unfold recorded
  split
  · next saved =>
    obtain ⟨front, path⟩ := exists_settingsPath host
    rw [saving, path] at saved
    exact (Settings.kept_of_save saved).get named (by decide) (by decide) found name
  · rfl

/-- What a command does to the storage: nothing, unless it has begun a session and recorded that beside
the storage, or ended one. -/
inductive LeavesStore (host : Host) (store : Store) : Command → Except Fault Unit → Store → Prop
  | same (command : Command) (result : Except Fault Unit) : LeavesStore host store command result store
  | login (given : Option String) (account token : String) {store' : Store}
      (started : Session.start store token = .ok store') :
      LeavesStore host store (.login given) (.ok ()) (recorded host account store')
  | logout {store' : Store} (finished : Session.finish store = .ok store') :
      LeavesStore host store .logout (.ok ()) store'

theorem leavesStore_login (host : Host) (settings : Settings) (given : Option String) (s : State) :
    LeavesStore host s.panel.line.store (.login given) (runAct (login host settings given) s).1
      (runAct (login host settings given) s).2.panel.line.store := by
  rw [runAct_login]
  cases password? host with
  | none => exact .same _ _
  | some password =>
    have ended := Page.login_cases (accountText host settings given) password s.panel.line
    simp only
    generalize runOn (Page.login (accountText host settings given) password) s.panel.line = r at ended ⊢
    cases ended with
    | noAccount | noPassword => exact .same _ _
    | failed f l' complete store | unstored response f l' complete store =>
      simp only [store]
      exact .same _ _
    | stored response l' complete granted readable started call =>
      exact .login given _ response.token started

theorem leavesStore_act (host : Host) (settings : Settings) (command : Command) (s : State) :
    LeavesStore host s.panel.line.store command (runAct (act host settings command) s).1
      (runAct (act host settings command) s).2.panel.line.store := by
  by_cases quiet : (∀ given, command ≠ .login given) ∧ command ≠ .logout
  · rw [store_of_act host settings quiet.1 quiet.2 s]
    exact .same _ _
  · cases command with
    | login given => exact leavesStore_login host settings given s
    | logout =>
      show LeavesStore host _ .logout (runAct logout s).1 (runAct logout s).2.panel.line.store
      rw [runAct_logout]
      cases finished : Session.finish s.panel.line.store with
      | error e => exact .same _ _
      | ok store => exact .logout finished
    | _ => simp at quiet

theorem place_recorded (host : Host) (account : String) (store : Store) :
    (recorded host account store).place = store.place := by
  unfold recorded
  split <;> rfl

namespace LeavesStore

variable {command : Command} {result : Except Fault Unit} {store store' : Store}

/-- What a command keeps its items in stays what it is. -/
theorem emptied (left : LeavesStore host store command result store') :
    store'.place.emptied = store.place.emptied := by
  cases left with
  | same => rfl
  | login given account token started =>
    rw [place_recorded]
    exact Store.emptied_of_start started
  | logout finished => exact Store.emptied_of_remove finished

/-- A command leaves everything but the token. When a login has succeeded, the file of the storage is
there, and recording the login beside it does not touch it. -/
theorem get (left : LeavesStore host store command result store')
    (named : NamedFile "storage.json" store) {name : String} (ne : name ≠ tokenName) :
    store'.get name = store.get name := by
  cases left with
  | same => rfl
  | @login given account token between started =>
    have named' := Storage.namedFile_of_emptied named (Store.emptied_of_start started)
    have set := (Session.start_eq_ok_iff.mp started).2
    have found (path : FilePath) (place : between.place = .file path) :
        ∃ n, between.files.look path = .ok n := by
      obtain ⟨f, looked⟩ := Storage.look_of_set set place
      exact ⟨_, looked⟩
    rw [get_of_recorded named' found]
    exact Store.get_set_of_ne set ne
  | logout finished => exact Store.get_remove_of_ne finished ne

end LeavesStore

/-! ## Deeds -/

/-- What is done: a command, or anything that happens to a panel. -/
inductive Deed where
  | panel (h : Panel.Happening)
  | command (host : Host) (settings : Settings) (c : Command)

namespace Deed

/-- The state after a deed. -/
def after (s : State) : Deed → State
  | .panel h => { s with panel := s.panel.after h }
  | .command host settings c => (runAct (act host settings c) s).2

def afterAll (s : State) (deeds : List Deed) : State := deeds.foldl after s

/-- A deed succeeds. -/
def Succeeds (s : State) : Deed → Prop
  | .panel (.step clock step) => ∃ a, (s.panel.step clock step).1 = .ok a
  | .panel (.storage _) => True
  | .command host settings c => (runAct (act host settings c) s).1 = .ok ()

def IsCommand : Deed → Prop
  | .command .. => True
  | .panel _ => False

/-- A deed that begins or ends a session. -/
def IsSession : Deed → Prop
  | .panel (.step _ (.setToken _)) | .panel (.step _ .clearToken) | .panel (.step _ (.login ..))
  | .panel (.step _ .logout) => True
  | .command _ _ c => c.IsSession
  | _ => False

/-- What becomes of the storage without the panel: a change by others, be it of the files or of single
items, or a failure that begins or ends. -/
def IsForeign : Deed → Prop
  | .panel (.storage _) | .panel (.step _ (.setItem ..)) | .panel (.step _ (.removeItem _))
  | .panel (.step _ (.files _)) => True
  | _ => False

/-- The path to which a deed goes. -/
def goesTo? : Deed → Option String
  | .panel (.step _ step) => step.goesTo?
  | .panel (.storage _) => none
  | .command _ _ c => c.goesTo?

/-- What a deed leaves: the storage, unless it has begun or ended a session; all of it but the token, in
any case; and the current page, unless the deed itself went to another. -/
structure Spares (s : State) (d : Deed) : Prop where
  store : (d.IsSession → ¬ d.Succeeds s) → (d.after s).panel.line.store = s.panel.line.store
  others : ∀ name, name ≠ tokenName →
    (d.after s).panel.line.store.get name = s.panel.line.store.get name
  current : (d.after s).panel.current =
    Navigation.currentVia s.panel.line.store s.panel.current d.goesTo?

/-- A step of the panel spares what a deed spares. -/
theorem spares_step (clock : Page.Clock) (step : Panel.Step)
    (own : ¬ (Deed.panel (.step clock step)).IsForeign) : Spares s (.panel (.step clock step)) := by
  have stores := (Panel.step_cases clock s.panel step).stores
  refine ⟨fun quiet => ?_, fun name ne => ?_, Panel.current_step clock s.panel step⟩
  · show (s.panel.step clock step).2.line.store = _
    -- a step of the session that fails leaves the storage as it was, and the others write nothing
    cases result : (s.panel.step clock step).1 with
    | error f => exact Panel.step_store_of_error result
    | ok a =>
      have idle : ¬ (Deed.panel (.step clock step)).IsSession := fun session =>
        quiet session ⟨a, result⟩
      generalize (s.panel.step clock step).2.line.store = store at stores ⊢
      cases stores with
      | same => rfl
      | setToken | clearToken | login | logout => exact absurd trivial idle
      | setItem | removeItem | files => exact absurd trivial own
  · show (s.panel.step clock step).2.line.store.get name = _
    generalize (s.panel.step clock step).2.line.store = store at stores ⊢
    cases stores with
    | same => rfl
    | setToken t started | login account password t started =>
      exact Store.get_set_of_ne (Session.start_eq_ok_iff.mp started).2 ne
    | clearToken finished | logout finished => exact Store.get_remove_of_ne finished ne
    | setItem | removeItem | files => exact absurd trivial own

/-- A command spares what a deed spares. -/
theorem spares_command (host : Host) (settings : Settings) (c : Command)
    (named : NamedFile "storage.json" s.panel.line.store) : Spares s (.command host settings c) := by
  have left := leavesStore_act host settings c s
  refine ⟨fun quiet => ?_, fun name ne => left.get named ne, current_of_act host settings c s⟩
  rw [after]
  rw [Succeeds] at quiet
  generalize (runAct (act host settings c) s).1 = result at left quiet
  generalize (runAct (act host settings c) s).2.panel.line.store = store at left ⊢
  cases left with
  | same => rfl
  | login => exact absurd rfl (quiet trivial)
  | logout => exact absurd rfl (quiet trivial)

/-- **Every deed that is one of the panel spares** all but the session that it begins or ends. -/
theorem spares_after (d : Deed) (own : ¬ d.IsForeign)
    (named : d.IsCommand → NamedFile "storage.json" s.panel.line.store) : Spares s d := by
  cases d with
  | command host settings c => exact spares_command host settings c (named trivial)
  | panel h =>
    cases h with
    | step clock step => exact spares_step clock step own
    | storage store => exact absurd trivial own

/-! ## Runs -/

/-- Where commands are among the deeds, the storage is where the program opens it, and whatever becomes of
it from outside, it stays there. -/
def Placed (s : State) (deeds : List Deed) : Prop :=
  ∀ d ∈ deeds, d.IsCommand → NamedFile "storage.json" s.panel.line.store ∧
    ∀ store, .panel (.storage store) ∈ deeds → NamedFile "storage.json" store

theorem Placed.named {d : Deed} {rest : List Deed} (placed : Placed s (d :: rest))
    (command : d.IsCommand) : NamedFile "storage.json" s.panel.line.store :=
  (placed d List.mem_cons_self command).1

theorem Placed.after {d : Deed} {rest : List Deed} (placed : Placed s (d :: rest)) :
    Placed (d.after s) rest := by
  intro c within command
  obtain ⟨named, foreign⟩ := placed c (List.mem_cons_of_mem d within) command
  refine ⟨?_, fun store later => foreign store (List.mem_cons_of_mem d later)⟩
  cases d with
  | command host settings c =>
    exact Storage.namedFile_of_emptied named (leavesStore_act host settings c s).emptied
  | panel h =>
    cases h with
    | step clock step => exact Storage.namedFile_of_emptied named (Panel.emptied_step clock s.panel step)
    | storage store => exact foreign store List.mem_cons_self

theorem Placed.afterAll {before later : List Deed} (placed : Placed s (before ++ later)) :
    Placed (Deed.afterAll s before) later := by
  induction before generalizing s with
  | nil => exact placed
  | cons d rest ih => exact ih placed.after

/-- A run of deeds of the panel leaves everything but the token. -/
theorem get_afterAll {deeds : List Deed} (placed : Placed s deeds) (own : ∀ d ∈ deeds, ¬ d.IsForeign)
    {name : String} (ne : name ≠ tokenName) :
    (afterAll s deeds).panel.line.store.get name = s.panel.line.store.get name := by
  induction deeds generalizing s with
  | nil => rfl
  | cons d rest ih =>
    exact (ih placed.after fun d within => own d (List.mem_cons_of_mem _ within)).trans
      ((spares_after d (own d List.mem_cons_self) placed.named).others name ne)

/-- A run of deeds of the panel in which no session is begun or ended leaves the storage. -/
theorem store_afterAll {deeds : List Deed} (placed : Placed s deeds) (own : ∀ d ∈ deeds, ¬ d.IsForeign)
    (quiet : ∀ before d later, deeds = before ++ d :: later → d.IsSession →
      ¬ d.Succeeds (afterAll s before)) :
    (afterAll s deeds).panel.line.store = s.panel.line.store := by
  induction deeds generalizing s with
  | nil => rfl
  | cons d rest ih =>
    have same : (d.after s).panel.line.store = s.panel.line.store :=
      (spares_after d (own d List.mem_cons_self) placed.named).store (quiet [] d rest rfl)
    refine (ih placed.after (fun d within => own d (List.mem_cons_of_mem _ within)) ?_).trans same
    rintro before d' later rfl
    exact quiet (d :: before) d' later rfl

end Deed

/-! ## Whole runs of the program -/

/-- A run that does not begin or end a session leaves the files. -/
theorem files_of_run (host : Host) (words : List String)
    (quiet : ∀ i, CommandLine.parse words = .ok i → i.command.IsSession → (run host words).exit ≠ 0) :
    (run host words).files = host.files := by
  cases parsed : CommandLine.parse words with
  | error e =>
    rw [run, parsed]
    show (refused host e).files = host.files
    unfold refused
    split <;> rfl
  | ok i =>
    cases prepared : prepare (withVariables host) i.flags with
    | error e =>
      simp only [run, parsed, runCommand, prepared]
      rfl
    | ok r =>
      obtain ⟨settings, panel⟩ := r
      obtain ⟨named, files, -⟩ := fresh_of_panelOf (panelOf_of_prepare prepared)
      have whole := run_eq parsed prepared
      have spares := Deed.spares_command (withVariables host) settings i.command
        (s := { panel := panel }) named
      rw [whole]
      -- the storage is opened on the files of the host, and what spares the store spares them
      refine (congrArg Store.files (spares.store fun session done => ?_)).trans files
      refine quiet i parsed session ?_
      rw [whole]
      exact exit_outcomeOf.mpr done

/-- A storage that is opened anew, over the files that the one opened before has left, gives what that one
gives. -/
theorem get_openStore (settings : Settings) {path : FilePath} {files : FileTree} {store : Store}
    (place : store.place.emptied = (settings.openStore path files).place.emptied) {name : String}
    (same : store.get name = (settings.openStore path files).get name) :
    (settings.openStore path store.files).get name = (settings.openStore path files).get name := by
  obtain ⟨place', files'⟩ := store
  cases backend : settings.backend with
  | file =>
    simp only [Settings.openStore, backend] at place same ⊢
    cases place' with
    | file path' =>
      cases place
      exact same
    | memory | keychain | refusing => cases place
  | keyring | memory =>
    simp only [Settings.openStore, backend]
    rfl

/-- Seen through the storage that the settings of a run name, the run leaves everything but the token. -/
theorem get_of_run {words : List String} {i : CommandLine.Invocation} {panel : Panel}
    (parsed : CommandLine.parse words = .ok i)
    (prepared : prepare (withVariables host) i.flags = .ok (settings, panel)) {name : String}
    (ne : name ≠ tokenName) :
    (settings.openStore (withVariables host).storagePath (run host words).files).get name =
      (settings.openStore (withVariables host).storagePath host.files).get name := by
  obtain ⟨transport, -, rfl⟩ := panelOf_eq_ok_iff.mp (panelOf_of_prepare prepared)
  have named := namedFile_openStore settings (withVariables host) host.files
  have left := leavesStore_act (withVariables host) settings i.command {
    panel.line := {
      store := settings.openStore (withVariables host).storagePath host.files
      transport := transport
      peer := (withVariables host).peer } }
  rw [run_eq parsed prepared]
  exact get_openStore settings left.emptied (left.get named ne)

/-! ## The theorem -/

/-- **Only logging in and out touches the credential.** Let anything be done on a panel: commands, steps,
and between them whatever becomes of the storage without the panel, if only commands find the file of the
storage under its name. Every deed that is the panel's own then leaves the storage as it is, unless it
begins or ends a session and succeeds; it leaves everything but the token in any case, whatever the peer
answers and however the storage fails; and the current page is the one that the deed went to before it
made any call, or the same as before. So a run of such deeds leaves everything but the token, and the
whole storage if no session has been begun or ended.

The same goes for runs of the program: files change only in a login or a logout that succeeds, and seen
through the storage that the run has opened, only the token does. -/
theorem storage_of_run (s : State) (deeds : List Deed) (placed : Deed.Placed s deeds) :
    (∀ before d later, deeds = before ++ d :: later → ¬ d.IsForeign →
      Deed.Spares (Deed.afterAll s before) d) ∧
    ((∀ d ∈ deeds, ¬ d.IsForeign) →
      (∀ name, name ≠ tokenName →
        (Deed.afterAll s deeds).panel.line.store.get name = s.panel.line.store.get name) ∧
      ((∀ before d later, deeds = before ++ d :: later → d.IsSession →
          ¬ d.Succeeds (Deed.afterAll s before)) →
        (Deed.afterAll s deeds).panel.line.store = s.panel.line.store)) ∧
    (∀ (host : Host) (words : List String),
      ((∀ i, CommandLine.parse words = .ok i → i.command.IsSession → (run host words).exit ≠ 0) →
        (run host words).files = host.files) ∧
      ∀ i settings panel, CommandLine.parse words = .ok i →
        prepare (withVariables host) i.flags = .ok (settings, panel) →
        ∀ name, name ≠ tokenName →
          (settings.openStore (withVariables host).storagePath (run host words).files).get name =
            (settings.openStore (withVariables host).storagePath host.files).get name) := by
  refine ⟨?_, fun own => ⟨fun name ne => Deed.get_afterAll placed own ne, Deed.store_afterAll placed own⟩,
    fun host words => ⟨files_of_run host words, fun i settings panel parsed prepared name ne =>
      get_of_run parsed prepared ne⟩⟩
  rintro before d later rfl own
  exact Deed.spares_after d own placed.afterAll.named

/-- A ban that the server refuses to lift, because it does not accept the token: the token is still there,
and the page that the command went to is the current one. -/
theorem storage_of_run_rejected :
    let host : Host := { clock := default }
    let s : State := { panel := ⟨⟨⟨.memory [("theme", "dark"), ("token", "t")], {}⟩,
      ⟨"http://h", ⟨"http", "h", ""⟩⟩,
      .scripted [("UnbanUser", [.statusOnly .unauthenticated "expired"])], []⟩, none, none⟩ }
    let d : Deed := .command host {} (.unban 7)
    ¬ d.Succeeds s ∧ (Deed.afterAll s [d]).panel.line.store = s.panel.line.store ∧
      (d.after s).panel.current = some .users := by
  intro host s d
  have placed : Deed.Placed s [d] := by
    intro _ _ _
    refine ⟨fun path place => ?_, by simp [d]⟩
    cases place
  obtain ⟨each, whole, -⟩ := storage_of_run s [d] placed
  have own : ¬ d.IsForeign := id
  have noSession : ¬ d.IsSession := id
  have rejected : ¬ d.Succeeds s := by
    show (runAct (act host {} (.unban 7)) s).1 ≠ .ok ()
    decide +kernel
  refine ⟨rejected, (whole (by simpa using own)).2 fun before d' later split session => ?_, ?_⟩
  · have within : d' ∈ [d] := split ▸ List.mem_append_right _ List.mem_cons_self
    rw [List.mem_singleton.mp within] at session
    exact absurd session noSession
  · refine (each [] d [] rfl own).current.trans ?_
    decide +kernel

end Program

end AdminPanel
