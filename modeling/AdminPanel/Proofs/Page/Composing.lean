import AdminPanel.Page.Action
import AdminPanel.Proofs.Rpc.Composing

/-!
# The pages are put together from calls

Loading a page and acting on one, but for logging in and out, is calling the server and computing.
-/

namespace AdminPanel.Page

open Rpc

theorem ofCalls_loadServerInfo : OfCalls loadServerInfo :=
  (OfCalls.unary _ _).bind fun _ => .pure _

theorem ofCalls_loadDashboard (order : List DashboardCall) (clock : Clock) :
    OfCalls (loadDashboard order clock) := by
  refine (OfCalls.unary Method.getServerInfo {}).attempt.bind fun info => ?_
  refine (OfCalls.unary Method.timestamp {}).attempt.bind fun time => ?_
  refine (OfCalls.unary Method.ping {}).attempt.bind fun ping => ?_
  split
  · exact .throw _
  · exact .pure _

theorem ofCalls_readEntries (ending : Ending) (room : Nat) (bodies : List (List UInt8)) :
    OfCalls (readEntries ending room bodies) := by
  -- induction on the messages
  induction bodies generalizing room with
  | nil =>
    rw [readEntries]
    exact (OfCalls.close ending).bind fun _ => .pure _
  | cons body bodies ih =>
    cases room with
    | zero => exact (OfCalls.readBody _ body).bind fun _ => .pure _
    | succ room =>
      exact (OfCalls.readBody _ body).bind fun _ => (ih room).bind fun _ => .pure _

theorem ofCalls_loadLogs (settings : LogSettings) (now : Time.Instant) :
    OfCalls (loadLogs settings now) :=
  (OfCalls.streaming _ _).bind fun opened =>
    (ofCalls_readEntries opened.2 settings.kept opened.1).bind fun _ => .pure _

theorem ofCalls_loadConfigText : OfCalls loadConfigText :=
  (OfCalls.unary _ _).bind fun _ => .pure _

theorem ofCalls_view (clock : Clock) (view : View) : OfCalls (view.load clock) := by
  cases view with
  | login => exact ofCalls_loadServerInfo.bind fun _ => .pure _
  | dashboard => exact ofCalls_loadDashboard [] clock
  | services => exact (OfCalls.unary _ _).bind fun _ => .pure _
  | monitor => exact (OfCalls.unary _ _).bind fun _ => .pure _
  | logs => exact (ofCalls_loadLogs _ _).bind fun _ => .pure _
  | users => exact (OfCalls.unary _ _).bind fun _ => .pure _
  | config => exact ofCalls_loadConfigText.bind fun _ => .pure _

theorem ofCalls_load (clock : Clock) (route : Route) : OfCalls (load clock route) :=
  ofCalls_view clock (viewOf route)

theorem ofCalls_setStatus (status : Message.RunningStatus) (reason : String) :
    OfCalls (setStatus status reason) :=
  (OfCalls.unary _ _).bind fun _ => .pure _

theorem ofCalls_announce (title content : String) : OfCalls (announce title content) :=
  (OfCalls.unary Method.getAccountInfo _).bind fun _ =>
    (OfCalls.unary Method.getId _).bind fun _ =>
      (OfCalls.unary Method.publishAnnouncement _).bind fun _ => .pure _

theorem ofCalls_ban (user : UInt64) (duration : Option Message.Duration) (reason : Option String) :
    OfCalls (ban user duration reason) :=
  (OfCalls.unary _ _).bind fun _ => .pure _

theorem ofCalls_unban (user : UInt64) : OfCalls (unban user) :=
  (OfCalls.unary _ _).bind fun _ => .pure _

theorem ofCalls_deleteAccount (user : UInt64) : OfCalls (deleteAccount user) :=
  (OfCalls.unary _ _).bind fun _ => .pure _

theorem ofCalls_setConfig (content : String) : OfCalls (setConfig content) := by
  unfold setConfig
  split
  · exact .throw _
  · exact (OfCalls.unary _ _).bind fun _ => .pure _

end AdminPanel.Page
