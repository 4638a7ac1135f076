import AdminPanel.Proofs.Page.Failing
import AdminPanel.Proofs.Program.Banning
import AdminPanel.Proofs.Program.Sparing

/-!
# When the advice to log in again is given

A run that fails reports why, and if the server refused the session it gives an advice before that: to log
in again. The advice follows the refusal through every command, whatever it asks and in whatever place its
calls end, with one exception: a login does not give it.

* **`CommandEnds`** — the statuses that calls of a command end in, by the session and the peer alone.
* **`Blames`** — a command fails with an authentication failure exactly for the statuses of a predicate;
  every command but a login does so for its own (`blames_act`).
* **`advice_follows_refusal`** — the advice in the error output of a whole run.
-/

namespace AdminPanel.Program

open Message
open Page (FailsFor LoadEnds AnnounceEnds)
open Rpc
open Session (tokenName)

variable {α β : Type} {host : Host} {settings : Settings} {s : State} {P : Status → Prop}

/-! ## Blaming a call -/

/-- A call of a command ends in a status, and those before it have not ended badly. -/
def CommandEnds (host : Host) (settings : Settings) (l : Line) (status : Status) : Command → Prop
  | .login given => Text.trim (accountText host settings given) ≠ "" ∧
      (∃ password, password? host = some password ∧ password ≠ "") ∧
      outcomeAt l.store l.peer .auth = .error status
  | .logout | .status | .routes => False
  | .openPage path _ => ∃ n, Navigation.go l.store path = .ok n ∧ LoadEnds l status n.route
  | .setStatus .. => Session.isOpen l.store ∧ outcomeAt l.store l.peer .setServerStatus = .error status
  | .ban .. => Session.isOpen l.store ∧ outcomeAt l.store l.peer .banUser = .error status
  | .unban _ => Session.isOpen l.store ∧ outcomeAt l.store l.peer .unbanUser = .error status
  | .deleteAccount _ => Session.isOpen l.store ∧ outcomeAt l.store l.peer .deleteAccount = .error status
  | .announce .. => Session.isOpen l.store ∧ AnnounceEnds l status
  | .getConfig => Session.isOpen l.store ∧ outcomeAt l.store l.peer .getConfig = .error status
  | .setConfig file => Session.isOpen l.store ∧
      (∃ content v, l.store.files.readText (FileTree.pathOf host.directory file) = .ok content ∧
        Page.checkConfig content = .ok v) ∧
      outcomeAt l.store l.peer .setConfig = .error status

/-- A result that is an authentication failure exactly for the statuses of a predicate. Of other failures
this says nothing. -/
def Blames (P : Status → Prop) (r : Except Fault α) : Prop :=
  ∀ f : Failure, f.isAuthentication = true → (r = .error (.rpc f) ↔ ∃ status, P status ∧ f = .ofStatus status)

/-- The walk over the chain of a fault finds a call at its head or nowhere. Behind a login whose call has
failed there is none, since the failure of the login stands in the place of the call's. -/
theorem refusesSession_eq (e : Fault) :
    e.refusesSession = match e with
      | .rpc f => f.isAuthentication
      | _ => false := by
  have words (texts : List String) : (texts.map Fault.Link.words).any Fault.Link.refusesSession = false := by
    simp [Fault.Link.refusesSession]
  have storage (f : Storage.Fault) : (Fault.storageChain f).any Fault.Link.refusesSession = false := by
    simp [Fault.storageChain, Fault.Link.refusesSession]
  cases e with
  | rpc f => exact Bool.or_false _
  | login f => cases f <;> simp [Fault.refusesSession, Fault.chain, Fault.Link.refusesSession, storage]
  | readToken | clearToken => simp [Fault.refusesSession, Fault.chain, Fault.Link.refusesSession, storage]
  | settings | address | notLoggedIn | navigation | readFile | noTerminal => exact words _

/-- Such a result is a refusal of the session exactly if one of the statuses is. -/
theorem Blames.refuses_iff {r : Except Fault α} (h : Blames P r) :
    (∃ e, r = .error e ∧ e.refusesSession = true) ↔
      ∃ status, P status ∧ (Failure.ofStatus status).isAuthentication = true := by
  constructor
  · rintro ⟨e, rfl, refused⟩
    rw [refusesSession_eq] at refused
    cases e with
    | rpc f =>
      obtain ⟨status, ended, rfl⟩ := (h f refused).mp rfl
      exact ⟨status, ended, refused⟩
    | _ => cases refused
  · rintro ⟨status, ended, refused⟩
    exact ⟨_, (h _ refused).mpr ⟨status, ended, rfl⟩, (refusesSession_eq _).trans refused⟩

/-- A fault that refuses no session blames no call. -/
theorem blames_error {e : Fault} (other : e.refusesSession = false) :
    Blames (fun _ => False) (.error e : Except Fault α) := by
  intro f refused
  constructor
  · rintro failed
    cases failed
    rw [refusesSession_eq] at other
    exact absurd (refused.symm.trans other) (by decide)
  · rintro ⟨_, impossible, _⟩
    exact impossible.elim

theorem blames_ok (x : α) : Blames (fun _ => False) (.ok x : Except Fault α) := by
  intro f _
  simp

theorem Blames.congr {Q : Status → Prop} {r : Except Fault α} (h : Blames P r)
    (same : ∀ status, P status ↔ Q status) : Blames Q r := by
  intro f refused
  rw [h f refused]
  simp only [same]

/-- What is done after a call and cannot fail adds nothing to blame. -/
theorem blames_call_bind {act : OnLine α} {rest : α → Act β} (fails : FailsFor P (runOn act s.panel.line).1)
    (done : ∀ x s, ∃ y, (runAct (rest x) s).1 = .ok y) : Blames P (runAct (call act >>= rest) s).1 := by
  intro f _
  rw [← fails f, runAct_bind, call, runAct_onLine]
  generalize runOn act s.panel.line = r
  obtain ⟨failure | x, l⟩ := r
  · simp [Except.mapError]
  · obtain ⟨y, ok⟩ := done x { s with panel.line := l }
    simp [Except.mapError, ok]

/-- Behind the guard there is something to blame only with a session. -/
theorem blames_enter_bind {route : Route} (needed : route ≠ .login) {rest : Unit → Act α}
    (blames : ∀ s' : State, s'.panel.line = s.panel.line → Blames P (runAct (rest ()) s').1) :
    Blames (fun status => Session.isOpen s.panel.line.store ∧ P status)
      (runAct (enter route >>= rest) s).1 := by
  cases isOpen : Session.isOpen s.panel.line.store with
  | false =>
    rw [runAct_enter_bind_of_closed needed isOpen]
    exact (blames_error rfl).congr fun status => by simp
  | true =>
    rw [runAct_bind, runAct_enter, if_pos (.inr isOpen)]
    exact (blames { s with panel := { s.panel with current := some route } } rfl).congr fun status => by simp

/-! ## Commands -/

section Commands

variable {address : String} {hasRoots : Bool}

/-- A guarded command that makes one call with a single answer. -/
theorem blames_guarded {m : Method α β} {request : α} {γ : Type} {value : β → γ} {act : OnLine γ}
    {route : Route} {rest : γ → Act Unit}
    (dialed : Transport.new address hasRoots = .ok s.panel.line.transport) (needed : route ≠ .login)
    (faithful : Faithful m request) (calls : act = do return value (← unary m request))
    (done : ∀ x s, ∃ y, (runAct (rest x) s).1 = .ok y) :
    Blames (fun status => Session.isOpen s.panel.line.store ∧
        outcomeAt s.panel.line.store s.panel.line.peer m = .error status)
      (runAct (enter route >>= fun _ => call act >>= rest) s).1 := by
  refine blames_enter_bind needed fun s' same => blames_call_bind ?_ done
  rw [calls, same]
  exact Page.fails_unary dialed faithful value

theorem done_sayLine (text : String) (s : State) : ∃ y, (runAct (sayLine text) s).1 = .ok y := ⟨(), rfl⟩

theorem blames_display (dialed : Transport.new address hasRoots = .ok s.panel.line.transport) (json : Bool)
    (n : Navigation) :
    Blames (LoadEnds s.panel.line · n.route) (runAct (display host json n) s).1 := by
  have loads (s' : State) (same : s'.panel.line = s.panel.line) :
      Blames (LoadEnds s.panel.line · n.route) (runAct (do
        let data ← call (Page.load host.clock n.route)
        if json then sayLine data.value.print else say data.text) s').1 := by
    refine blames_call_bind ?_ fun data s => by cases json <;> exact ⟨(), rfl⟩
    rw [same]
    exact Page.fails_load dialed host.clock n.route
  cases n with
  | allowed r => exact loads s rfl
  | redirected requested landing => exact loads _ rfl

theorem blames_openPage (dialed : Transport.new address hasRoots = .ok s.panel.line.transport)
    (path : String) (json : Bool) :
    Blames (CommandEnds host settings s.panel.line · (.openPage path json))
      (runAct (openPage host path json) s).1 := by
  rw [runAct_openPage]
  cases gone : Navigation.go s.panel.line.store path with
  | error e => exact (blames_error rfl).congr fun status => by simp [CommandEnds, gone]
  | ok n =>
    have shown : Blames (LoadEnds s.panel.line · n.route)
        (runAct (display host json n) (s.opens path n)).1 :=
      blames_display (s := s.opens path n) dialed json n
    exact shown.congr fun status => by simp [CommandEnds, gone]

/-- A configuration that is not sent is no refusal of the session. -/
theorem isAuthentication_of_checkConfig {content : String} {e : Failure}
    (checked : Page.checkConfig content = .error e) : e.isAuthentication = false := by
  unfold Page.checkConfig at checked
  split at checked
  · cases checked
    rfl
  · split at checked
    · cases checked
    · cases checked
      rfl

theorem blames_setConfig (dialed : Transport.new address hasRoots = .ok s.panel.line.transport)
    (file : String) :
    Blames (CommandEnds host settings s.panel.line · (.setConfig file))
      (runAct (setConfig host file) s).1 := by
  rw [runAct_setConfig]
  -- three ways to stop before the call is made, none of them a refusal, and then the call
  cases isOpen : Session.isOpen s.panel.line.store with
  | false => exact (blames_error rfl).congr fun status => by simp [CommandEnds, isOpen]
  | true =>
    simp only [if_true]
    cases read : s.panel.line.store.files.readText (FileTree.pathOf host.directory file) with
    | error e => exact (blames_error rfl).congr fun status => by simp [CommandEnds, read]
    | ok content =>
      simp only
      cases checked : Page.checkConfig content with
      | error e =>
        have refused : Page.setConfig content = throw e := by rw [Page.setConfig, checked]
        have other : (Fault.rpc e).refusesSession = false :=
          (refusesSession_eq _).trans (isAuthentication_of_checkConfig checked)
        rw [refused]
        exact (blames_error other).congr fun status => by simp [CommandEnds, read, checked]
      | ok v =>
        have sent : Page.setConfig content =
            do return (fun _ => ()) (← unary .setConfig { content := content }) := by
          rw [Page.setConfig, checked]
        have faithful : Faithful .setConfig { content := content } :=
          ⟨by decide, by simp [declared, Method.setConfig], rfl⟩
        have called := Page.fails_unary dialed faithful fun _ => ()
        rw [← sent] at called
        let there : State := { s with panel := { s.panel with current := some .config } }
        exact (blames_call_bind (s := there) called fun _ => done_sayLine _).congr fun status => by
          simp [CommandEnds, isOpen, read, checked]

theorem blames_showStatus : Blames (fun _ => False) (runAct (showStatus settings) s).1 := by
  unfold showStatus
  rw [runAct_bind, runAct_get]
  simp only
  cases Session.token s.panel.line.store with
  | error e => exact blames_error (refusesSession_eq _)
  | ok token => cases settings.lastAccount <;> exact blames_ok _

/-- **Every command but a login blames the calls that it makes**: it fails with an authentication failure
exactly if the status in which one of them has ended is one. -/
theorem blames_act (dialed : Transport.new address hasRoots = .ok s.panel.line.transport)
    {command : Command} (noLogin : ∀ given, command ≠ .login given) :
    Blames (CommandEnds host settings s.panel.line · command) (runAct (act host settings command) s).1 := by
  -- the commands of one call behind a guard go by one lemma, each with its own method
  cases command with
  | login given => exact absurd rfl (noLogin given)
  | logout =>
    show Blames (fun _ => False) (runAct logout s).1
    rw [runAct_logout]
    cases Session.finish s.panel.line.store with
    | error e => exact blames_error (refusesSession_eq _)
    | ok store => exact blames_ok ()
  | status => exact blames_showStatus
  | routes => exact blames_ok ()
  | openPage path json => exact blames_openPage dialed path json
  | setStatus status reason =>
    exact blames_guarded dialed (by decide) ⟨by decide, by simp [declared, Method.setServerStatus], rfl⟩ rfl
      fun _ => done_sayLine _
  | ban user seconds reason =>
    refine blames_guarded dialed (by decide) (faithful_banRequest user seconds reason) rfl fun _ s => ?_
    cases seconds <;> exact ⟨(), rfl⟩
  | unban user =>
    exact blames_guarded dialed (by decide) ⟨by decide, by simp [declared, Method.unbanUser], rfl⟩ rfl
      fun _ => done_sayLine _
  | deleteAccount user =>
    exact blames_guarded dialed (by decide) ⟨by decide, by simp [declared, Method.deleteAccount], rfl⟩ rfl
      fun _ => done_sayLine _
  | announce title content =>
    refine blames_enter_bind (by decide) fun s' same => blames_call_bind ?_ fun _ => done_sayLine _
    rw [same]
    exact Page.fails_announce dialed title content
  | getConfig =>
    exact blames_guarded dialed (by decide) ⟨by decide, by simp [declared, Method.getConfig], rfl⟩ rfl
      fun _ => done_sayLine _
  | setConfig file => exact blames_setConfig dialed file

/-- A login whose call ends badly fails as the login that it is. -/
theorem runAct_login_of_ends (dialed : Transport.new address hasRoots = .ok s.panel.line.transport)
    {given : Option String} {status : Status}
    (ended : CommandEnds host settings s.panel.line status (.login given)) :
    (runAct (login host settings given) s).1 = .error (.login (.rpc (.ofStatus status))) := by
  obtain ⟨someAccount, ⟨password, typed, nonempty⟩, ended⟩ := ended
  have faithful : Faithful .auth (Page.authRequest (accountText host settings given) password) :=
    ⟨by decide, by simp [declared, Method.auth], by
      unfold Page.authRequest
      rfl⟩
  have result := (ends_unary dialed faithful).result
  rw [ended] at result
  rw [runAct_login, typed]
  simp only [Page.runOn_login_of_complete ⟨someAccount, nonempty⟩]
  generalize runOn (unary .auth _) s.panel.line = r at result
  obtain ⟨failure | response, l⟩ := r
  · cases result
    rfl
  · cases result

/-- No failure of a login refuses the session. -/
theorem refusesSession_of_login {given : Option String} {e : Fault}
    (failed : (runAct (login host settings given) s).1 = .error e) : e.refusesSession = false := by
  rw [refusesSession_eq]
  rw [runAct_login] at failed
  cases typed : password? host with
  | none =>
    rw [typed] at failed
    cases failed
    rfl
  | some password =>
    simp only [typed] at failed
    generalize runOn (Page.login (accountText host settings given) password) s.panel.line = r at failed
    obtain ⟨f | user, l⟩ := r
    · cases failed
      rfl
    · cases failed

end Commands

/-! ## The error output -/

/-- What a command writes to the error output itself: that it shows another page than was wanted. -/
def warningOf (store : Storage.Store) : Command → String
  | .openPage path _ =>
    match Navigation.go store path with
    | .ok (.redirected requested landing) =>
      s!"{requested} requires a session, showing {landing.name} instead" ++ "\n"
    | _ => ""
  | _ => ""

theorem leaves_enter (route : Route) : Leaves State.stderr (enter route) := by
  intro s
  rw [runAct_enter]
  split <;> rfl

theorem leaves_onLine {ε : Type} (ofFault : ε → Fault) (act : ExceptT ε (StateM Line) α) :
    Leaves State.stderr (onLine ofFault act) := by
  intro s
  rw [runAct_onLine]

theorem leaves_say (text : String) : Leaves State.stderr (say text) := fun _ => rfl

theorem leaves_sayLine (text : String) : Leaves State.stderr (sayLine text) := fun _ => rfl

theorem leaves_guarded (route : Route) (act : OnLine α) {rest : α → Act β}
    (said : ∀ x, Leaves State.stderr (rest x)) :
    Leaves State.stderr (enter route >>= fun _ => call act >>= rest) :=
  (leaves_enter route).bind fun _ => (leaves_onLine _ _).bind said

/-- A command that opens no page writes nothing to the error output. -/
theorem leaves_act (host : Host) (settings : Settings) {command : Command}
    (other : ∀ path json, command ≠ .openPage path json) :
    Leaves State.stderr (act host settings command) := by
  cases command with
  | login given => exact fun s => (login_leaves host settings given s).2
  | logout => exact (leaves_onLine _ _).bind fun _ => leaves_sayLine _
  | status => exact leaves_showStatus leaves_say settings
  | routes => exact fun _ => rfl
  | openPage path json => exact absurd rfl (other path json)
  | setStatus | unban | deleteAccount | announce | getConfig =>
    exact leaves_guarded _ _ fun _ => leaves_sayLine _
  | ban user seconds reason =>
    refine leaves_guarded _ _ fun _ => ?_
    cases seconds <;> exact leaves_sayLine _
  | setConfig file =>
    refine (leaves_enter .config).bind fun _ => Leaves.bind (fun _ => rfl) fun s => ?_
    simp only
    split
    · exact fun _ => rfl
    · exact (leaves_onLine _ _).bind fun _ => leaves_sayLine _

theorem stderr_of_act (host : Host) (settings : Settings) (command : Command) (s : State) :
    (runAct (act host settings command) s).2.stderr =
      s.stderr ++ warningOf s.panel.line.store command := by
  -- only the opening of a page warns, when it is sent to another route
  by_cases opens : ∃ path json, command = .openPage path json
  · obtain ⟨path, json, rfl⟩ := opens
    show (runAct (openPage host path json) s).2.stderr = _
    have shown (n : Navigation) : Leaves State.stderr (do
        let data ← call (Page.load host.clock n.route)
        if json then sayLine data.value.print else say data.text) :=
      leaves_shown (fun _ => leaves_onLine _ _) leaves_say host.clock n.route json
    rw [runAct_openPage, warningOf]
    cases Navigation.go s.panel.line.store path with
    | error e => exact String.append_empty.symm
    | ok n =>
      cases n with
      | allowed r => exact (shown (.allowed r) _).trans String.append_empty.symm
      | redirected requested landing =>
        exact (shown (.redirected requested landing) _).trans (String.append_assoc ..)
  · have other : ∀ path json, command ≠ .openPage path json :=
      fun path json same => opens ⟨path, json, same⟩
    have nothing : warningOf s.panel.line.store command = "" := by
      cases command with
      | openPage path json => exact absurd rfl (other path json)
      | _ => rfl
    rw [leaves_act host settings other s, nothing, String.append_empty]

/-- The advice to log in again stands in the error output, right behind what has been written before. -/
def Advised (warning : String) (o : Outcome) : Prop :=
  ∃ rest, o.stderr = warning ++ Fault.advice ++ rest

/-- What a run says on the error output: nothing but a warning, or a report, before which there may be the
advice. -/
def Reports (warning : String) (o : Outcome) : Prop :=
  (o.exit = 0 ∧ o.stderr = warning) ∨ ∃ e : Fault, o.exit = 1 ∧
    (o.stderr = warning ++ e.report ∨ o.stderr = warning ++ Fault.advice ++ e.report)

/-- A report is no advice. -/
theorem report_ne_advice (e : Fault) (rest : String) : e.report ≠ Fault.advice ++ rest := by
  intro same
  have heads := congrArg (fun text => text.toList.head?) same
  simp [Fault.report, Fault.advice] at heads

/-- A complaint begins with the advice exactly if the session was refused. -/
theorem complaint_eq_advice_iff {result : Except Fault Unit} :
    (∃ rest, complaint result = Fault.advice ++ rest) ↔ ∃ e, result = .error e ∧ e.refusesSession = true := by
  cases result with
  | ok =>
    have nonempty (rest : String) : "" ≠ Fault.advice ++ rest := fun same =>
      absurd (String.append_eq_empty_iff.mp same.symm).1 (by decide)
    simp [complaint, nonempty]
  | error e =>
    cases refuses : e.refusesSession with
    | false => simp [complaint, refuses, report_ne_advice]
    | true => simp [complaint, refuses]

/-- The advice is given exactly if the session was refused. -/
theorem advised_iff {result : Except Fault Unit} :
    Advised s.stderr (outcomeOf result s) ↔ ∃ e, result = .error e ∧ e.refusesSession = true := by
  rw [← complaint_eq_advice_iff]
  refine exists_congr fun rest => ?_
  rw [outcomeOf, String.append_assoc, String.append_right_inj]

theorem reports_outcomeOf (result : Except Fault Unit) (s : State) :
    Reports s.stderr (outcomeOf result s) := by
  cases result with
  | ok => exact .inl ⟨rfl, String.append_empty⟩
  | error e =>
    refine .inr ⟨e, rfl, ?_⟩
    cases refuses : e.refusesSession with
    | false => exact .inl (by simp [outcomeOf, complaint, refuses])
    | true => exact .inr (by simp [outcomeOf, complaint, refuses, String.append_assoc])

/-! ## Whole runs -/

/-- What keeps a command from being started refuses no session. -/
theorem refusesSession_of_prepare {flags : Flags} {e : Fault} (h : prepare host flags = .error e) :
    e.refusesSession = false := by
  rw [refusesSession_eq]
  unfold prepare at h
  cases read : settingsOf host flags with
  | error f =>
    simp only [read, Except.mapError, Bind.bind, Except.bind, Except.error.injEq] at h
    rw [← h]
  | ok settings =>
    cases made : panelOf host settings with
    | error f =>
      simp only [read, made, Except.mapError, Bind.bind, Except.bind, Except.error.injEq] at h
      rw [← h]
    | ok panel => simp [read, made, Except.mapError, Bind.bind, Except.bind, pure, Except.pure] at h

/-- **The advice to log in again follows the refusal of a call, but not out of a login.**

A run whose settings cannot be read or whose address is none reports that, and gives no advice. Of any other
command line, the error output is a warning that another page is shown, if there is one; then the advice, if
it is given; then the report of the failure, if there is one. A command that is no login gives the advice
exactly if a call of its, and none before it, has ended in a status that means an authentication failure. A
login never gives it: one whose call ends in such a status fails with the same report as any command, and
without the advice.

A call with a single answer ends in such a status for one of two reasons: no header can carry the token of
the session, or the reply is one of HTTP 401 or 403, or ends with such a code. The stream of the log does so,
too, as long as it is read up to its end. -/
theorem advice_follows_refusal {words : List String} {i : CommandLine.Invocation} (host : Host)
    (parsed : CommandLine.parse words = .ok i) :
    let o := run host words
    let host' := withVariables host
    let refuses (status : Status) : Prop := (Failure.ofStatus status).isAuthentication = true
    (∀ e, prepare host' i.flags = .error e → o.exit = 1 ∧ o.stderr = e.report ∧ ¬ Advised "" o) ∧
    (∀ settings panel, prepare host' i.flags = .ok (settings, panel) →
      let l := panel.line
      let warning := warningOf l.store i.command
      Reports warning o ∧
      ((∀ given, i.command ≠ .login given) →
        (Advised warning o ↔ ∃ status, CommandEnds host' settings l status i.command ∧ refuses status)) ∧
      (∀ given, i.command = .login given → ¬ Advised warning o ∧
        ∀ status, CommandEnds host' settings l status i.command →
          o.exit = 1 ∧ o.stderr = (Fault.rpc (.ofStatus status)).report) ∧
      (∀ (α β : Type) (m : Method α β) (p : Peer),
        (∃ status, outcomeAt l.store p m = .error status ∧ refuses status) ↔
          Page.Unsendable l.store ∨ ∃ reply, replyAt l.store p m.name = .ok reply ∧ Page.Refuses m reply) ∧
      ((∃ status, LoadEnds l status .logs ∧ refuses status) ↔
        Page.Unsendable l.store ∨ ∃ reply, replyAt l.store l.peer "FetchMsgs" = .ok reply ∧
          Page.RefusesStream .fetchMsgs 200 reply)) := by
  intro o host' refuses
  constructor
  · intro e unprepared
    have stderr : o.stderr = e.report := by
      simp [o, run, parsed, runCommand, unprepared, host', complaint, refusesSession_of_prepare unprepared]
    have exit : o.exit = 1 := by simp [o, run, parsed, runCommand, unprepared, host']
    refine ⟨exit, stderr, ?_⟩
    rintro ⟨rest, advised⟩
    rw [stderr, String.empty_append] at advised
    exact report_ne_advice e rest advised
  · intro settings panel prepared l warning
    have dialed : Transport.new settings.baseAddress host'.hasRoots = .ok l.transport := by
      obtain ⟨transport, dialed, rfl⟩ := panelOf_eq_ok_iff.mp (panelOf_of_prepare prepared)
      exact dialed
    obtain ⟨command, flags⟩ := i
    let s : State := { panel := panel }
    have ran : o = outcomeOf (runAct (act host' settings command) s).1
        (runAct (act host' settings command) s).2 := run_eq parsed prepared
    have said : (runAct (act host' settings command) s).2.stderr = warning :=
      (stderr_of_act host' settings command s).trans String.empty_append
    -- from here on it is a question about the fault: whether it refuses the session
    have advised : Advised warning o ↔
        ∃ e, (runAct (act host' settings command) s).1 = .error e ∧ e.refusesSession = true := by
      rw [ran, ← said]
      exact advised_iff
    refine ⟨?_, fun noLogin => ?_, ?_, fun α β m p => ?_, ?_⟩
    · rw [ran, ← said]
      exact reports_outcomeOf _ _
    · rw [advised]
      exact (blames_act dialed noLogin).refuses_iff
    -- the fault of a login keeps what it was caused by to itself, so that no refusal is found in it
    · rintro given rfl
      constructor
      · rw [advised]
        rintro ⟨e, failed, refused⟩
        exact absurd (refused.symm.trans (refusesSession_of_login failed)) (by decide)
      · intro status ended
        have failed : (runAct (act host' settings (.login given)) s).1 = _ :=
          runAct_login_of_ends dialed ended
        rw [failed] at ran
        constructor
        · rw [ran]
          rfl
        · rw [ran, outcomeOf, said]
          exact String.empty_append
    · simp only [refuses, Page.isAuthentication_ofStatus]
      exact Page.refused_iff
    · simp only [refuses, Page.isAuthentication_ofStatus]
      exact Page.log_refused_iff

/-- A host whose storage file keeps a token, with a password, and with a peer. -/
def hostAnswering (token password : String) (peer : Peer) : Host :=
  { hostKeeping token with
    environment := [("XDG_DATA_HOME", "/d"), (passwordVariable, password)], peer := peer }

/-- The panel of such a host. -/
def panelAnswering (token : String) (peer : Peer) : Panel where
  line := {
    store := ⟨.file ["d", "ocpanel", "storage.json"], (hostKeeping token).files⟩
    transport := ⟨"http://127.0.0.1:7777/backend", ⟨"http", "127.0.0.1:7777", "/backend"⟩⟩
    peer := peer }

theorem prepare_hostAnswering (token password : String) (peer : Peer) :
    prepare (withVariables (hostAnswering token password peer)) {} = .ok ({}, panelAnswering token peer) := by
  -- the variables are evaluated once; what follows does not look into them again
  generalize known : withVariables (hostAnswering token password peer) = host
  have same : host = hostAnswering token password peer := by
    rw [← known]
    rfl
  have path : host.storagePath = ["d", "ocpanel", "storage.json"] := by
    rw [same]
    exact storagePath_hostKeeping token
  have missing : host.files.hasNode host.settingsPath = false := by
    rw [same, settingsPath_of_none rfl rfl]
    rfl
  have loaded : settingsOf host {} = .ok {} := by
    rw [settingsOf, Settings.load, missing, same]
    rfl
  have made : panelOf host {} = .ok (panelAnswering token peer) := by
    rw [panelOf_eq, path, same]
    rfl
  unfold prepare
  rw [loaded]
  show ((panelOf host {}).mapError Fault.address).bind (fun panel => .ok (({} : Settings), panel)) = _
  rw [made]
  rfl

/-- A ban that may not be lifted: the server refuses the session, and the advice is given. -/
theorem advice_follows_refusal_unban :
    let peer : Peer := .scripted [("UnbanUser", [.statusOnly .permissionDenied "no"])]
    Advised "" (run (hostAnswering "a" "" peer) ["unban", "7"]) := by
  intro peer
  have parsed : CommandLine.parse ["unban", "7"] = .ok ⟨.unban 7, {}⟩ := by decide
  obtain ⟨-, started⟩ := advice_follows_refusal (hostAnswering "a" "" peer) parsed
  obtain ⟨-, follows, -⟩ := started _ _ (prepare_hostAnswering "a" "" peer)
  refine (follows nofun).mpr ⟨⟨.permissionDenied, "no", responseHeaders⟩, ⟨?_, ?_⟩, rfl⟩
  · decide +kernel
  · have attached : attach (panelAnswering "a" peer).line.store [] = .ok [(authorization, "Bearer a")] := by
      decide +kernel
    rw [outcomeAt, replyAt, attached]
    rfl

/-- A login out of a session with a token that no header can carry: its call ends in a status that means an
authentication failure, and no advice is given. -/
theorem login_not_advised :
    let peer : Peer := .scripted []
    let host := hostAnswering "a\\nb" "p" peer
    let o := run host ["login", "a"]
    (∃ settings panel status, prepare (withVariables host) {} = .ok (settings, panel) ∧
      Page.Unsendable panel.line.store ∧
      CommandEnds (withVariables host) settings panel.line status (.login (some "a")) ∧
      (Failure.ofStatus status).isAuthentication = true) ∧
    o.exit = 1 ∧
    o.stderr = "Error: Authentication failed - token may be expired: "
      ++ "stored token is not a valid header value\n" ∧
    ¬ Advised "" o := by
  intro peer host o
  have parsed : CommandLine.parse ["login", "a"] = .ok ⟨.login (some "a"), {}⟩ := by decide
  have prepared : prepare (withVariables host) {} = .ok ({}, panelAnswering "a\\nb" peer) :=
    prepare_hostAnswering "a\\nb" "p" peer
  let s : State := { panel := panelAnswering "a\\nb" peer }
  let status : Status := ⟨.unauthenticated, "stored token is not a valid header value", []⟩
  -- the stored token holds a newline, so that the call to `Auth` is refused before it is sent
  have unsendable : Page.Unsendable s.panel.line.store :=
    ⟨"a\nb", by decide +kernel, by decide, fun valid =>
      absurd (all_isHeaderChar_iff.mpr valid) (by decide +kernel)⟩
  have attached : attach s.panel.line.store [] = .error status := by decide +kernel
  have ended : CommandEnds (withVariables host) {} s.panel.line status (.login (some "a")) := by
    refine ⟨by decide +kernel, ⟨"p", rfl, by decide⟩, ?_⟩
    rw [outcomeAt, replyAt, attached]
    rfl
  have dialed : Transport.new ({} : Settings).baseAddress true = .ok s.panel.line.transport := rfl
  have failed : (runAct (act (withVariables host) {} (.login (some "a"))) s).1 = _ :=
    runAct_login_of_ends dialed ended
  have stderr : o.stderr = (Fault.login (.rpc (.ofStatus status))).report := by
    show (run host ["login", "a"]).stderr = _
    rw [run_eq parsed prepared, failed, outcomeOf, stderr_of_act]
    rfl
  refine ⟨⟨_, _, status, prepared, unsendable, ended, rfl⟩, ?_, stderr.trans (by decide +kernel), ?_⟩
  · show (run host ["login", "a"]).exit = 1
    rw [run_eq parsed prepared, failed]
    rfl
  · rintro ⟨rest, advised⟩
    rw [stderr, String.empty_append] at advised
    exact report_ne_advice _ rest advised

end AdminPanel.Program
