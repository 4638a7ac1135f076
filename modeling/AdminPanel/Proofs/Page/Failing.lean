import AdminPanel.Proofs.Page.Announcing
import AdminPanel.Proofs.Page.Dashboard
import AdminPanel.Proofs.Page.Logs
import AdminPanel.Proofs.Rpc.Attaching

/-!
# Which call is to blame

Below an address that can be dialed a page fails to load exactly because a call of its has ended badly, and
says so with what the status of that call means. The same holds of an announcement, which makes three calls.

* **`FailsFor`** — a result fails exactly for the statuses of a predicate.
* **`LoadEnds`**, **`AnnounceEnds`** — the statuses that calls of a page and of an announcement end in, by
  the session and the peer alone.
* **`refused_iff`**, **`log_refused_iff`** — where the statuses come from that refuse the session: from a
  token that no header can carry, or from the reply.
-/

namespace AdminPanel.Page

open Message
open Rpc

variable {α β γ : Type} {P : Status → Prop}

/-! ## Failing for a status -/

/-- A result that is a failure exactly for the statuses of a predicate. -/
def FailsFor (P : Status → Prop) (r : Except Failure α) : Prop :=
  ∀ f, r = .error f ↔ ∃ status, P status ∧ f = .ofStatus status

theorem failsFor_outcome (o : Except Status α) :
    FailsFor (fun status => o = .error status) (o.mapError .ofStatus) := by
  intro f
  cases o <;> simp [Except.mapError, eq_comm]

theorem FailsFor.map {r : Except Failure α} (h : FailsFor P r) (g : α → β) : FailsFor P (r.map g) := by
  intro f
  rw [← h f]
  cases r <;> simp [Except.map]

theorem runOn_map (g : α → β) (act : OnLine α) (l : Line) :
    (runOn (do return g (← act)) l).1 = (runOn act l).1.map g := by
  rw [runOn_bind]
  rcases runOn act l with ⟨_ | _, _⟩ <;> rfl

section Dialed

variable {address : String} {hasRoots : Bool} {l : Line} {m : Method α β} {request : α}

/-- A call with a single answer fails for the status that it ends in. -/
theorem fails_unary (dialed : Transport.new address hasRoots = .ok l.transport)
    (faithful : Faithful m request) (g : β → γ) :
    FailsFor (fun status => outcomeAt l.store l.peer m = .error status)
      (runOn (do return g (← unary m request)) l).1 := by
  rw [runOn_map, (ends_unary dialed faithful).result]
  exact (failsFor_outcome _).map g

/-! ## Pages -/

/-- Loading a page makes a call that ends in a status and is the first to end badly, in the order of the
page. -/
def LoadEnds (l : Line) (status : Status) : Route → Prop
  | .login | .services => outcomeAt l.store l.peer .getServerInfo = .error status
  | .dashboard =>
    let info := outcomeAt l.store l.peer .getServerInfo
    let time := outcomeAt l.store l.peer .timestamp
    let ping := outcomeAt l.store l.peer .ping
    info = .error status ∨ (∃ i, info = .ok i) ∧ time = .error status ∨
      (∃ i, info = .ok i) ∧ (∃ t, time = .ok t) ∧ ping = .error status
  | .monitor => outcomeAt l.store l.peer .getMonitoringMetrics = .error status
  | .logs => replyAt l.store l.peer "FetchMsgs" = .error status ∨
      ∃ reply messages, replyAt l.store l.peer "FetchMsgs" = .ok reply ∧
        Streams .fetchMsgs reply messages (.failed status) ∧ messages.length ≤ 200
  | .users => outcomeAt l.store l.peer .listServerRoles = .error status
  | .config => outcomeAt l.store l.peer .getConfig = .error status

theorem fails_dashboard (dialed : Transport.new address hasRoots = .ok l.transport) (clock : Clock) :
    FailsFor (LoadEnds l · .dashboard) (runOn (loadDashboard [] clock) l).1 := by
  rw [loadDashboard_result dialed]
  refine FailsFor.map ?_ _
  intro f
  have unordered {α β γ : Type} (a : Except Failure α) (b : Except Failure β) (c : Except Failure γ) :
      joinResults [] a b c = a.bind fun a => b.bind fun b => c.bind fun c => .ok (a, b, c) := rfl
  rw [unordered]
  cases info : outcomeAt l.store l.peer .getServerInfo <;>
    cases time : outcomeAt l.store l.peer .timestamp <;> cases ping : outcomeAt l.store l.peer .ping <;>
    simp [LoadEnds, info, time, ping, Except.mapError, Except.bind, eq_comm]

theorem fails_logs (dialed : Transport.new address hasRoots = .ok l.transport) (now : Time.Instant) :
    FailsFor (LoadEnds l · .logs) (runOn (loadLogs {} now) l).1 := by
  have reads := reads_loadLogs dialed {} now
  have kept : ({} : LogSettings).kept = 200 := rfl
  generalize runOn (loadLogs {} now) l = r at reads
  intro f
  cases reads with
  | @unsent status h => simp [LoadEnds, h, eq_comm]
  | @answered reply messages finish c h _ streams =>
    rw [kept, entriesOf]
    constructor
    · intro failed
      -- a log that is full is shown as it is: the reading stops before the ending of the stream is seen
      by_cases more : 200 < messages.length
      · rw [if_pos more] at failed
        cases failed
      · rw [if_neg more] at failed
        cases finish with
        | clean | silent => cases failed
        | failed status =>
          exact ⟨status, .inr ⟨reply, messages, h, streams, by omega⟩, (Except.error.inj failed).symm⟩
    · rintro ⟨status, unsent | ⟨reply', messages', h', streams', short⟩, rfl⟩
      · cases h.symm.trans unsent
      · cases h.symm.trans h'
        obtain ⟨rfl, rfl⟩ := streams.unique streams'
        rw [if_neg (by omega)]
        rfl

theorem fails_load (dialed : Transport.new address hasRoots = .ok l.transport) (clock : Clock)
    (route : Route) : FailsFor (LoadEnds l · route) (runOn (load clock route) l).1 := by
  have info : Faithful .getServerInfo {} := faithful_ask .info
  -- five pages are one unary call with their answer mapped; the dashboard and the log have lemmas of their
  -- own
  cases route with
  | login =>
    have loaded := (fails_unary dialed info ServerInfo.ofResponse).map Data.login
    rw [← runOn_map] at loaded
    exact loaded
  | services => exact fails_unary dialed info _
  | dashboard => exact fails_dashboard dialed clock
  | monitor =>
    exact fails_unary dialed ⟨by decide, by simp [declared, Method.getMonitoringMetrics], rfl⟩ _
  | logs =>
    have loaded := (fails_logs dialed clock.now).map Data.logs
    rw [← runOn_map] at loaded
    exact loaded
  | users => exact fails_unary dialed ⟨by decide, by simp [declared, Method.listServerRoles], rfl⟩ _
  | config =>
    have faithful : Faithful .getConfig {} := ⟨by decide, by simp [declared, Method.getConfig], rfl⟩
    have loaded := (fails_unary dialed faithful (·.content)).map fun text =>
      Data.config (configContent text)
    rw [← runOn_map] at loaded
    exact loaded

/-! ## Announcements -/

/-- An announcement makes a call that ends in a status: none of those before it has. -/
def AnnounceEnds (l : Line) (status : Status) : Prop :=
  let first := outcomeAt l.store l.peer .getAccountInfo
  let second := outcomeAt l.store (l.peer.answer "GetAccountInfo").2 .getId
  let third := outcomeAt l.store ((l.peer.answer "GetAccountInfo").2.answer "GetId").2 .publishAnnouncement
  first = .error status ∨ (∃ account, first = .ok account ∧ second = .error status) ∨
    ∃ account publisher, first = .ok account ∧ second = .ok publisher ∧ third = .error status

theorem fails_announce (dialed : Transport.new address hasRoots = .ok l.transport) (title content : String) :
    FailsFor (AnnounceEnds l) (runOn (announce title content) l).1 := by
  obtain ⟨calls, -, result, -⟩ := makes_announce dialed title content
  intro f
  rw [result, announceOutcome_eq_error_iff]
  refine exists_congr fun status => ?_
  rw [and_comm, @eq_comm _ f]
  exact Iff.rfl

end Dialed

/-! ## Refusals of the session -/

/-- A code with which a server refuses a session. -/
def IsRefusalCode (code : Code) : Prop :=
  code = .unauthenticated ∨ code = .permissionDenied

/-- A failure is an authentication failure exactly if its status has such a code. -/
theorem isAuthentication_ofStatus {status : Status} :
    (Failure.ofStatus status).isAuthentication = true ↔ IsRefusalCode status.code := by
  unfold Failure.ofStatus IsRefusalCode
  cases status.code <;> simp [Failure.isAuthentication]

theorem isRefusalCode_ofHttp {h : Nat} : IsRefusalCode (.ofHttp h) ↔ h = 401 ∨ h = 403 := by
  unfold IsRefusalCode Code.ofHttp
  by_cases unauthenticated : h = 401
  · simp [unauthenticated]
  · by_cases denied : h = 403
    · simp [denied]
    · simp only [unauthenticated, denied, if_false, or_self, iff_false]
      split_ifs <;> simp

/-- A reply that refuses the session to a call with a single answer: by its status, or behind a first message
that can be read, however late. -/
inductive Refuses (m : Method α β) : Reply → Prop where
  | http {h : Nat} (refused : h = 401 ∨ h = 403) : Refuses m (.http h)
  | status {code : Code} (text : String) (refused : IsRefusalCode code) : Refuses m (.statusOnly code text)
  | empty {ending : Ending} (refused : IsRefusalCode ending.code) : Refuses m (.messages [] ending)
  | message {body : List UInt8} {b : β} (bodies : List (List UInt8)) {ending : Ending}
      (read : m.response.read body = .ok b) (refused : IsRefusalCode ending.code) :
    Refuses m (.messages (body :: bodies) ending)

theorem not_isRefusalCode_internal : ¬ IsRefusalCode .internal := by simp [IsRefusalCode]

theorem IsRefusalCode.ne_ok {code : Code} (refused : IsRefusalCode code) : code ≠ .ok := by
  rintro rfl
  simp [IsRefusalCode] at refused

/-- Messages that end with a code that refuses the session end badly with it. -/
theorem bad?_of_refused {ending : Ending} (refused : IsRefusalCode ending.code) (headers : Headers) :
    ending.bad? headers = some ⟨ending.code, ending.message, headers⟩ := by
  rw [Ending.bad?, if_neg refused.ne_ok]

/-- A call with a single answer is refused exactly by such a reply. -/
theorem refuses_iff {m : Method α β} {reply : Reply} :
    (∃ status, reply.outcome m = .error status ∧ IsRefusalCode status.code) ↔ Refuses m reply := by
  constructor
  · rintro ⟨status, ended, refused⟩
    -- where the status comes from: the head of the reply, its only frame, or the trailers behind a message
    cases reply with
    | http h =>
      cases ended
      split at refused
      · exact absurd refused not_isRefusalCode_internal
      · exact .http (isRefusalCode_ofHttp.mp refused)
    | statusOnly code text =>
      cases ended
      split at refused
      · exact absurd refused not_isRefusalCode_internal
      · exact .status text refused
    | messages bodies ending =>
      cases bodies with
      | nil =>
        cases ended
        cases bad : ending.bad? responseHeaders with
        | none =>
          rw [bad] at refused
          exact absurd refused not_isRefusalCode_internal
        | some status =>
          rw [bad] at refused
          obtain ⟨-, rfl⟩ := Ending.bad?_eq_some_iff.mp bad
          exact .empty refused
      | cons body bodies =>
        rw [Reply.outcome] at ended
        -- a message that cannot be read is an internal error and never a refusal
        cases read : m.response.read body with
        | error e =>
          rw [read] at ended
          cases ended
          exact absurd refused not_isRefusalCode_internal
        | ok b =>
          rw [read] at ended
          cases bad : ending.bad? [] with
          | none => simp [bad] at ended
          | some status' =>
            simp only [bad, Option.elim_some] at ended
            cases ended
            obtain ⟨-, rfl⟩ := Ending.bad?_eq_some_iff.mp bad
            exact .message bodies read refused
  · intro refuses
    cases refuses with
    | @http h refused =>
      exact ⟨httpStatus h, by rw [Reply.outcome, if_neg (by omega)], isRefusalCode_ofHttp.mpr refused⟩
    | @status code text refused =>
      exact ⟨⟨code, text, responseHeaders⟩, by rw [Reply.outcome, if_neg refused.ne_ok], refused⟩
    | @empty ending refused =>
      exact ⟨⟨ending.code, ending.message, responseHeaders⟩,
        by rw [Reply.outcome, bad?_of_refused refused, Option.getD_some], refused⟩
    | @message body b bodies ending read refused =>
      refine ⟨⟨ending.code, ending.message, []⟩, ?_, refused⟩
      simp only [Reply.outcome, read, bad?_of_refused refused, Option.elim_some]

/-- The token of the session is one that no header can carry. -/
def Unsendable (s : Storage.Store) : Prop :=
  ∃ t, s.get Session.tokenName = .ok (some t) ∧ t ≠ "" ∧ ¬ IsHeaderValue (bearer t)

/-- Before a call is sent it is refused exactly for such a token. -/
theorem replyAt_refused_iff {s : Storage.Store} {p : Peer} {name : String} :
    (∃ status, replyAt s p name = .error status ∧ IsRefusalCode status.code) ↔ Unsendable s := by
  unfold replyAt
  constructor
  · rintro ⟨status, refused, code⟩
    have attached := attach_cases s (⟨[], ()⟩ : Outgoing Unit)
    rw [Outgoing.attach] at attached
    cases credential : attach s [] with
    | error status' =>
      simp only [credential] at attached refused
      cases refused
      -- a token that cannot be read is internal; one that is no header value is what refuses
      cases attached with
      | unreadable => exact absurd code not_isRefusalCode_internal
      | invalid h nonempty invalid => exact ⟨_, h, nonempty, invalid⟩
    | ok headers =>
      simp only [credential] at refused
      cases answered : (p.answer name).1 with
      | none =>
        rw [answered] at refused
        cases refused
        -- nobody listens: unavailable, which no one takes for a refusal
        simp [IsRefusalCode, unreachable] at code
      | some reply =>
        rw [answered] at refused
        cases refused
  · rintro ⟨t, h, nonempty, invalid⟩
    have refused := attach_of_invalid h nonempty (⟨[], ()⟩ : Outgoing Unit) invalid
    rw [Outgoing.attach] at refused
    split at refused
    · cases refused
    · next status attached =>
      cases refused
      simp only [attached]
      exact ⟨_, rfl, .inl rfl⟩

/-- A call with a single answer is refused for one of two reasons: no header can carry the token of the
session, or the reply refuses it. -/
theorem refused_iff {m : Method α β} {s : Storage.Store} {p : Peer} :
    (∃ status, outcomeAt s p m = .error status ∧ IsRefusalCode status.code) ↔
      Unsendable s ∨ ∃ reply, replyAt s p m.name = .ok reply ∧ Refuses m reply := by
  rw [← replyAt_refused_iff, outcomeAt]
  cases replied : replyAt s p m.name with
  | error status => simp [Except.bind]
  | ok reply => simp [Except.bind, refuses_iff]

/-! ### Streams -/

/-- A reply that refuses the session to a stream that is read with room for some messages: by its status, or
behind messages that can all be read and for which there is room. -/
inductive RefusesStream (m : Method α β) (room : Nat) : Reply → Prop where
  | http {h : Nat} (refused : h = 401 ∨ h = 403) : RefusesStream m room (.http h)
  | status {code : Code} (text : String) (refused : IsRefusalCode code) :
    RefusesStream m room (.statusOnly code text)
  | messages {bodies : List (List UInt8)} {code : Code} (text : String) (short : bodies.length ≤ room)
      (read : ∀ body ∈ bodies, ∃ b, m.response.read body = .ok b) (refused : IsRefusalCode code) :
    RefusesStream m room (.messages bodies (.status code text))

/-- A stream finishes with a refusal only behind all of its messages. -/
theorem read_of_delivers {m : Method α β} {bodies : List (List UInt8)} {ending : Ending} {messages : List β}
    {status : Status} (h : Delivers m bodies ending messages (.failed status))
    (refused : IsRefusalCode status.code) :
    (∃ text, ending = .status status.code text) ∧ messages.length = bodies.length ∧
      ∀ body ∈ bodies, ∃ b, m.response.read body = .ok b := by
  generalize finished : Finish.failed status = finish at h
  -- induction on what the stream delivers
  induction h with
  | clean | silent => cases finished
  | failed text bad =>
    cases finished
    exact ⟨⟨text, rfl⟩, rfl, nofun⟩
  | unreadable =>
    cases finished
    exact absurd refused not_isRefusalCode_internal
  | message read _ ih =>
    obtain ⟨ends, length, reads⟩ := ih finished
    exact ⟨ends, congrArg (· + 1) length, List.forall_mem_cons.mpr ⟨⟨_, read⟩, reads⟩⟩

theorem exists_delivers {m : Method α β} {bodies : List (List UInt8)} {code : Code} (text : String)
    (bad : code ≠ .ok) (reads : ∀ body ∈ bodies, ∃ b, m.response.read body = .ok b) :
    ∃ messages, messages.length = bodies.length ∧
      Delivers m bodies (.status code text) messages (.failed ⟨code, text, []⟩) := by
  induction bodies with
  | nil => exact ⟨[], rfl, .failed text bad⟩
  | cons body bodies ih =>
    obtain ⟨⟨b, read⟩, reads⟩ := List.forall_mem_cons.mp reads
    obtain ⟨messages, length, rest⟩ := ih reads
    exact ⟨b :: messages, congrArg (· + 1) length, .message read rest⟩

theorem refusesStream_iff {m : Method α β} {room : Nat} {reply : Reply} :
    (∃ status messages, Streams m reply messages (.failed status) ∧ messages.length ≤ room ∧
      IsRefusalCode status.code) ↔ RefusesStream m room reply := by
  constructor
  · rintro ⟨status, messages, streams, short, refused⟩
    cases streams with
    | messages delivers =>
      obtain ⟨⟨text, rfl⟩, length, reads⟩ := read_of_delivers delivers refused
      exact .messages text (by omega) reads refused
    | refused text => exact .status text refused
    | http => exact .http (isRefusalCode_ofHttp.mp refused)
  · intro refuses
    cases refuses with
    | @http h refused =>
      exact ⟨httpStatus h, [], .http (by omega), Nat.zero_le _, isRefusalCode_ofHttp.mpr refused⟩
    | status text refused => exact ⟨_, [], .refused text refused.ne_ok, Nat.zero_le _, refused⟩
    | messages text short reads refused =>
      obtain ⟨messages, length, delivers⟩ := exists_delivers text refused.ne_ok reads
      exact ⟨_, messages, .messages delivers, by omega, refused⟩

/-- The log is refused for one of two reasons, as any call. -/
theorem log_refused_iff {l : Line} :
    (∃ status, LoadEnds l status .logs ∧ IsRefusalCode status.code) ↔
      Unsendable l.store ∨ ∃ reply, replyAt l.store l.peer "FetchMsgs" = .ok reply ∧
        RefusesStream .fetchMsgs 200 reply := by
  rw [← replyAt_refused_iff]
  simp only [← refusesStream_iff]
  constructor
  · rintro ⟨status, unsent | ⟨reply, messages, h, streams, short⟩, refused⟩
    · exact .inl ⟨status, unsent, refused⟩
    · exact .inr ⟨reply, h, status, messages, streams, short, refused⟩
  · rintro (⟨status, unsent, refused⟩ | ⟨reply, h, status, messages, streams, short, refused⟩)
    · exact ⟨status, .inl unsent, refused⟩
    · exact ⟨status, .inr ⟨reply, messages, h, streams, short⟩, refused⟩

end AdminPanel.Page
