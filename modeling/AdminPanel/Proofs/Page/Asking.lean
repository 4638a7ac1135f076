import AdminPanel.Page.Action
import AdminPanel.Proofs.Rpc.Asking

/-!
# What the pages ask of the server

The plan of every page and of every action on a page: the endpoints that it may call, in order.
Loading a page and acting on one touch nothing but the calls of the line; only logging in and
logging out replace the storage, and logging in does so after its one call has been answered
(`runOn_login`).
-/

namespace AdminPanel.Page

open Rpc

/-! ## Loading -/

/-- What loading a page asks for. -/
def loadPlan : Route → List Endpoint
  | .login => [Method.getServerInfo.endpoint]
  | .dashboard =>
    [Method.getServerInfo.endpoint, Method.timestamp.endpoint, Method.ping.endpoint]
  | .services => [Method.getServerInfo.endpoint]
  | .monitor => [Method.getMonitoringMetrics.endpoint]
  | .logs => [Method.fetchMsgs.endpoint]
  | .users => [Method.listServerRoles.endpoint]
  | .config => [Method.getConfig.endpoint]

theorem asks_loadServerInfo : Asks [Method.getServerInfo.endpoint] loadServerInfo :=
  (asks_unary _ _).bind_quiet fun _ => Asks.pure _

/-- An attempted action asks for what the action asks for; it only keeps the failure. -/
theorem asks_attempt {α : Type} {plan : List Endpoint} {act : OnLine α} (h : Asks plan act) :
    Asks plan (attempt act) := by
  have attempted (l : Line) : runOn (attempt act) l = (.ok (runOn act l).1, (runOn act l).2) := rfl
  constructor
  · exact h.leaves
  · intro l s token
    rw [attempted, attempted, h.sees l s token]

theorem asks_loadDashboard (order : List DashboardCall) (clock : Clock) :
    Asks (loadPlan .dashboard) (loadDashboard order clock) := by
  refine (asks_attempt (asks_unary Method.getServerInfo {})).bind fun info => ?_
  refine (asks_attempt (asks_unary Method.timestamp {})).bind fun time => ?_
  refine (asks_attempt (asks_unary Method.ping {})).bind_quiet fun ping => ?_
  split
  · exact Asks.throw _
  · exact Asks.pure _

/-- Reading the messages of a stream makes no further call. -/
theorem asks_readEntries (ending : Ending) (room : Nat) (bodies : List (List UInt8)) :
    Asks [] (readEntries ending room bodies) := by
  -- induction on the messages
  induction bodies generalizing room with
  | nil =>
    rw [readEntries]
    exact (asks_close ending).bind_quiet fun _ => Asks.pure _
  | cons body bodies ih =>
    cases room with
    | zero => exact (asks_readBody _ body).bind_quiet fun _ => Asks.pure _
    | succ room =>
      exact (asks_readBody _ body).bind_quiet fun _ => (ih room).bind_quiet fun _ => Asks.pure _

theorem asks_loadLogs (settings : LogSettings) (now : Time.Instant) :
    Asks [Method.fetchMsgs.endpoint] (loadLogs settings now) :=
  (asks_streaming _ _).bind_quiet fun opened =>
    (asks_readEntries opened.2 settings.kept opened.1).bind_quiet fun _ => Asks.pure _

theorem asks_loadConfigText : Asks [Method.getConfig.endpoint] loadConfigText :=
  (asks_unary _ _).bind_quiet fun _ => Asks.pure _

/-- A view asks for what its page asks for. -/
theorem asks_view (clock : Clock) (view : View) : Asks (loadPlan view.route) (view.load clock) := by
  cases view with
  | login => exact asks_loadServerInfo.bind_quiet fun _ => Asks.pure _
  | dashboard => exact asks_loadDashboard [] clock
  | services => exact (asks_unary _ _).bind_quiet fun _ => Asks.pure _
  | monitor => exact (asks_unary _ _).bind_quiet fun _ => Asks.pure _
  | logs => exact (asks_loadLogs _ _).bind_quiet fun _ => Asks.pure _
  | users => exact (asks_unary _ _).bind_quiet fun _ => Asks.pure _
  | config => exact asks_loadConfigText.bind_quiet fun _ => Asks.pure _

theorem asks_load (clock : Clock) (route : Route) : Asks (loadPlan route) (load clock route) := by
  have asks := asks_view clock (viewOf route)
  rw [viewOf_route] at asks
  exact asks

/-! ## Acting -/

/-- What publishing an announcement asks for. -/
def announcePlan : List Endpoint :=
  [Method.getAccountInfo.endpoint, Method.getId.endpoint, Method.publishAnnouncement.endpoint]

theorem asks_setStatus (status : Message.RunningStatus) (reason : String) :
    Asks [Method.setServerStatus.endpoint] (setStatus status reason) :=
  (asks_unary _ _).bind_quiet fun _ => Asks.pure _

theorem asks_announce (title content : String) : Asks announcePlan (announce title content) :=
  (asks_unary Method.getAccountInfo _).bind fun _ =>
    (asks_unary Method.getId _).bind fun _ =>
      (asks_unary Method.publishAnnouncement _).bind_quiet fun _ => Asks.pure _

theorem asks_ban (user : UInt64) (duration : Option Message.Duration) (reason : Option String) :
    Asks [Method.banUser.endpoint] (ban user duration reason) :=
  (asks_unary _ _).bind_quiet fun _ => Asks.pure _

theorem asks_unban (user : UInt64) : Asks [Method.unbanUser.endpoint] (unban user) :=
  (asks_unary _ _).bind_quiet fun _ => Asks.pure _

theorem asks_deleteAccount (user : UInt64) :
    Asks [Method.deleteAccount.endpoint] (deleteAccount user) :=
  (asks_unary _ _).bind_quiet fun _ => Asks.pure _

theorem asks_setConfig (content : String) :
    Asks [Method.setConfig.endpoint] (setConfig content) := by
  unfold setConfig
  split
  · exact Asks.throw _
  · exact (asks_unary _ _).bind_quiet fun _ => Asks.pure _

/-! ## Logging in and out -/

/-- Everything that a login can do: without an account or a password, nothing; else its one call,
and only then, if the answer is good, the token is stored. -/
theorem runOn_login (account password : String) (l : Line) :
    runOn (login account password) l =
      if (Text.trim account).isEmpty then (.error (.missingField "account"), l)
      else if password.isEmpty then (.error (.missingField "password"), l)
      else match runOn (unary .auth (authRequest account password)) l with
        | (.error f, l') => (.error (.rpc f), l')
        | (.ok response, l') =>
          match Session.start l'.store response.token with
          | .error e => (.error (.storage e), l')
          | .ok store => (.ok response.id, { l' with store := store }) := by
  unfold login
  cases hacc : (Text.trim account).isEmpty with
  | true => simp
  | false =>
    cases hpass : password.isEmpty with
    | true => simp
    | false =>
      simp only [runOn_bind, Bool.false_eq_true, ↓reduceIte, runOn_adapt]
      rcases runOn (unary .auth (authRequest account password)) l with ⟨f | response, l'⟩
      · rfl
      · simp only [Except.mapError, runOn_get]
        cases Session.start l'.store response.token <;> rfl

/-- A login that is not incomplete, by its call. -/
theorem runOn_login_of_complete {account password : String} {l : Line}
    (complete : Text.trim account ≠ "" ∧ password ≠ "") :
    runOn (login account password) l =
      match runOn (unary .auth (authRequest account password)) l with
      | (.error f, l') => (.error (.rpc f), l')
      | (.ok response, l') =>
        match Session.start l'.store response.token with
        | .error e => (.error (.storage e), l')
        | .ok store => (.ok response.id, { l' with store := store }) := by
  have noAccount : (Text.trim account).isEmpty = false := by simpa using complete.1
  have noPassword : password.isEmpty = false := by simpa using complete.2
  rw [runOn_login, noAccount, noPassword]
  rfl

/-- The ways in which a logout can end. -/
theorem runOn_logout (l : Line) :
    runOn logout l = match Session.finish l.store with
      | .error e => (.error e, l)
      | .ok store => (.ok (), { l with store := store }) := by
  unfold logout
  rw [runOn_bind, runOn_get]
  show runOn (match Session.finish l.store with
    | .error e => throw e
    | .ok store => set { l with store := store }) l = _
  cases Session.finish l.store <;> rfl

end AdminPanel.Page
