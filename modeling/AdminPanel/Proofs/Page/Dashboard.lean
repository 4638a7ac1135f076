import AdminPanel.Page.Load
import AdminPanel.Proofs.Rpc.Racing

/-!
# The dashboard's three calls

The dashboard asks for the server's information, for its time, and for an answer at all, and does so at once.
The three are under way together, and the first that fails ends the loading; what is loaded is the same in
whatever order they go on.

* **`Loads`** — what can come of loading the dashboard when the three calls take their turns in an order.
* **`loads_loadDashboard`** — the panel's own loading is one of them: all three are made, and then their
  replies are read, first those that its order names.
* **`dashboard_any_order`** — what comes of loading, over all orders.
-/

namespace AdminPanel.Page

open Message
open Rpc

/-! ## The calls -/

/-- What a call of the dashboard asks. -/
@[reducible] def DashboardCall.ask : DashboardCall → Ask
  | .info => ⟨.getServerInfo, {}⟩
  | .time => ⟨.timestamp, {}⟩
  | .ping => ⟨.ping, {}⟩

/-- The calls in the order in which they are made. -/
def dashboardCalls : List DashboardCall := [.info, .time, .ping]

theorem faithful_ask (c : DashboardCall) : Faithful c.ask.method c.ask.request := by
  cases c with
  | info => exact ⟨by decide, by simp [declared, DashboardCall.ask, Method.getServerInfo], rfl⟩
  | time => exact ⟨by decide, by simp [declared, DashboardCall.ask, Method.timestamp], rfl⟩
  | ping => exact ⟨by decide, by simp [declared, DashboardCall.ask, Method.ping], rfl⟩

theorem ask_name_inj : ∀ c c' : DashboardCall, c.ask.method.name = c'.ask.method.name → c = c' := by
  rintro (_ | _ | _) (_ | _ | _) same <;> first | rfl | exact absurd same (by decide)

/-- What the dashboard shows of the answers. -/
def dashboardOf (clock : Clock) (answers : (c : DashboardCall) → c.ask.Response) : Data :=
  .dashboard (.ofResponse (answers .info)) (instantOf (answers .time).timestamp) clock.pingMs

/-- The three calls at their start on a line. -/
def startDashboard (l : Line) : Race DashboardCall.ask := .start DashboardCall.ask l

/-- What can come of loading the dashboard when the calls take their turns in an order. -/
def Loads (clock : Clock) (l : Line) (schedule : List DashboardCall) (result : Except Failure Data) : Prop :=
  ∃ joined, ((startDashboard l).run schedule).Joins joined ∧ result = joined.map (dashboardOf clock)

/-! ## The panel's own loading -/

theorem runOn_attempt {α : Type} (act : OnLine α) (l : Line) :
    runOn (attempt act) l = (.ok (runOn act l).1, (runOn act l).2) := rfl

theorem runOn_loadDashboard (order : List DashboardCall) (clock : Clock) (l : Line) :
    let info := runOn (unary .getServerInfo {}) l
    let time := runOn (unary .timestamp {}) info.2
    let ping := runOn (unary .ping {}) time.2
    runOn (loadDashboard order clock) l = ((joinResults order info.1 time.1 ping.1).map fun answers =>
      .dashboard (.ofResponse answers.1) (instantOf answers.2.1.timestamp) clock.pingMs, ping.2) := by
  intro info time ping
  unfold loadDashboard
  simp only [runOn_bind, runOn_attempt]
  cases joinResults order info.1 time.1 ping.1 <;> rfl

section Joining

variable (order : List DashboardCall) (replies : DashboardCall → Reply)

/-- What the reply to a call means to it. -/
def answer (c : DashboardCall) : Except Failure c.ask.Response :=
  (replies c).result c.ask.method

theorem joinResults_eq :
    joinResults order (answer replies .info) (answer replies .time) (answer replies .ping) =
      match (Race.firstFailed DashboardCall.ask replies order).map (·.2) with
      | some f => .error f
      | none => do return (← answer replies .info, ← answer replies .time, ← answer replies .ping) := by
  have failure : (Race.firstFailed DashboardCall.ask replies order).map (·.2) =
      order.findSome? fun c => failure? (answer replies c) := by
    rw [Race.firstFailed, List.map_findSome?]
    congr 1
    funext c
    rw [answer, Function.comp_apply]
    cases (replies c).result c.ask.method <;> rfl
  rw [failure, joinResults]
  congr 2
  funext c
  cases c <;> rfl

/-- The first failure among the calls that the order names, and then among all, is the one that counts. -/
theorem joinResults_of_firstFailed {e : DashboardCall × Failure}
    (first : Race.firstFailed DashboardCall.ask replies (order ++ dashboardCalls) = some e) :
    joinResults order (answer replies .info) (answer replies .time) (answer replies .ping) = .error e.2 := by
  rw [Race.firstFailed, List.findSome?_append] at first
  rw [joinResults_eq, Race.firstFailed]
  cases named : order.findSome? _ with
  | some e' =>
    rw [named] at first
    cases first
    rfl
  | none =>
    -- the order names none that fails, and among all it is the first
    rw [named] at first
    simp only [Option.none_or, dashboardCalls, List.findSome?] at first
    simp only [answer, Option.map_none]
    cases info : (replies .info).result DashboardCall.info.ask.method with
    | error f =>
      rw [info] at first
      cases first
      rfl
    | ok i =>
      rw [info] at first
      cases time : (replies .time).result DashboardCall.time.ask.method with
      | error f =>
        rw [time] at first
        cases first
        rfl
      | ok t =>
        rw [time] at first
        cases ping : (replies .ping).result DashboardCall.ping.ask.method with
        | error f =>
          rw [ping] at first
          cases first
          rfl
        | ok p =>
          rw [ping] at first
          cases first

theorem joinResults_of_answers {answers : (c : DashboardCall) → c.ask.Response}
    (all : ∀ c, answer replies c = .ok (answers c)) :
    joinResults order (answer replies .info) (answer replies .time) (answer replies .ping) =
      .ok (answers .info, answers .time, answers .ping) := by
  have none_failed : Race.firstFailed DashboardCall.ask replies order = none := by
    rw [Race.firstFailed, List.findSome?_eq_none_iff]
    intro c _
    rw [show (replies c).result c.ask.method = .ok (answers c) from all c]
  rw [joinResults_eq, none_failed, all, all, all]
  rfl

theorem joinResults_of_same {α β γ : Type} (f : Failure) :
    joinResults order (.error f : Except Failure α) (.error f : Except Failure β)
      (.error f : Except Failure γ) = .error f := by
  cases order with
  | nil => rfl
  | cons c rest => cases c <;> rfl

end Joining

section Loading

variable {address : String} {hasRoots : Bool} {l : Line}

/-- The turns of the panel's own loading: all calls are made, then the replies are read that the order names,
then the others. -/
def ownTurns (order : List DashboardCall) : List DashboardCall :=
  dashboardCalls ++ (order ++ dashboardCalls)

/-- A peer that answers one call answers all. -/
theorem exists_replies {reply : Reply}
    (answered : replyAt l.store l.peer DashboardCall.info.ask.method.name = .ok reply) :
    ∃ replies : DashboardCall → Reply, ∀ c, replyAt l.store l.peer c.ask.method.name = .ok (replies c) := by
  have each (c : DashboardCall) : ∃ reply, replyAt l.store l.peer c.ask.method.name = .ok reply := by
    cases h : replyAt l.store l.peer c.ask.method.name with
    | ok reply => exact ⟨reply, rfl⟩
    | error status => cases answered.symm.trans (replyAt_eq_error_iff.mp h)
  exact ⟨fun c => (each c).choose, fun c => (each c).choose_spec⟩

/-- When all calls are answered, the three are made one after the other, and each can be read. -/
theorem reading_of_answered (dialed : Transport.new address hasRoots = .ok l.transport)
    {replies : DashboardCall → Reply}
    (answered : ∀ c, replyAt l.store l.peer c.ask.method.name = .ok (replies c)) :
    let info := runOn (unary .getServerInfo {}) l
    let time := runOn (unary .timestamp {}) info.2
    let ping := runOn (unary .ping {}) time.2
    let made := (startDashboard l).run dashboardCalls
    Race.Reading replies made ∧ info.1 = answer replies .info ∧ time.1 = answer replies .time ∧
      ping.1 = answer replies .ping ∧ ping.2 = made.line := by
  intro info time ping made
  -- the page's own order, one turn for each call; every turn finds the next call still waiting
  have inTurn : made = (((startDashboard l).turn .info).turn .time).turn .ping := by
    simp only [made, dashboardCalls, Race.run, List.foldl_cons, List.foldl_nil]
  have sound₀ : Race.Sound l (startDashboard l) := Race.sound_start _ l
  obtain ⟨running₁, stages₁, ran₁⟩ :=
    Race.turn_of_answered dialed faithful_ask sound₀ (i := .info) rfl rfl (answered .info)
  have sound₁ := Race.sound_turn dialed faithful_ask ask_name_inj sound₀ .info
  obtain ⟨running₂, stages₂, ran₂⟩ := Race.turn_of_answered dialed faithful_ask sound₁ (i := .time) running₁
    (by rw [stages₁]; rfl) (answered .time)
  have sound₂ := Race.sound_turn dialed faithful_ask ask_name_inj sound₁ .time
  obtain ⟨running₃, stages₃, ran₃⟩ := Race.turn_of_answered dialed faithful_ask sound₂ (i := .ping) running₂
    (by rw [stages₂, stages₁]; rfl) (answered .ping)
  -- each call of the page stands on the line that the turn before has left
  have first : info = (answer replies .info, _) := ran₁
  have second : time = (answer replies .time, (((startDashboard l).turn .info).turn .time).line) := by
    show runOn _ info.2 = _
    rw [first]
    exact ran₂
  have third : ping = (answer replies .ping, made.line) := by
    show runOn _ time.2 = _
    rw [second, inTurn]
    exact ran₃
  have reading : Race.Reading replies made := by
    rw [inTurn]
    refine ⟨running₃, fun c => .inl ?_⟩
    rw [stages₃, stages₂, stages₁]
    cases c <;> rfl
  exact ⟨reading, congrArg Prod.fst first, congrArg Prod.fst second, congrArg Prod.fst third,
    congrArg Prod.snd third⟩

/-- A call that is not answered is none of the three. -/
theorem unanswered (dialed : Transport.new address hasRoots = .ok l.transport) {status : Status}
    (h : replyAt l.store l.peer DashboardCall.info.ask.method.name = .error status) :
    (startDashboard l).turn .info = { startDashboard l with failed := some (.info, .ofStatus status) } ∧
      runOn (unary .getServerInfo {}) l = (.error (.ofStatus status), l) ∧
      runOn (unary .timestamp {}) l = (.error (.ofStatus status), l) ∧
      runOn (unary .ping {}) l = (.error (.ofStatus status), l) := by
  have each (c : DashboardCall) :=
    Race.turn_of_unanswered dialed faithful_ask (replyAt_eq_error_iff.mp h : replyAt l.store l.peer
      c.ask.method.name = .error status)
  exact ⟨(each .info).1, (each .info).2, (each .time).2, (each .ping).2⟩

/-- What the panel's own loading joins is how the three calls end. -/
theorem loadDashboard_result (dialed : Transport.new address hasRoots = .ok l.transport)
    (order : List DashboardCall) (clock : Clock) :
    (runOn (loadDashboard order clock) l).1 =
      (joinResults order ((outcomeAt l.store l.peer .getServerInfo).mapError .ofStatus)
        ((outcomeAt l.store l.peer .timestamp).mapError .ofStatus)
        ((outcomeAt l.store l.peer .ping).mapError .ofStatus)).map fun answers =>
          .dashboard (.ofResponse answers.1) (instantOf answers.2.1.timestamp) clock.pingMs := by
  rw [runOn_loadDashboard]
  cases h : replyAt l.store l.peer DashboardCall.info.ask.method.name with
  | error status =>
    obtain ⟨-, info, time, ping⟩ := unanswered dialed h
    have outcome (c : DashboardCall) : outcomeAt l.store l.peer c.ask.method = .error status := by
      rw [outcomeAt, replyAt_eq_error_iff.mp h]
      rfl
    rw [info, time, ping, outcome .info, outcome .time, outcome .ping]
    rfl
  | ok reply =>
    obtain ⟨replies, answered⟩ := exists_replies h
    obtain ⟨-, info, time, ping, -⟩ := reading_of_answered dialed answered
    have outcome (c : DashboardCall) :
        answer replies c = (outcomeAt l.store l.peer c.ask.method).mapError .ofStatus := by
      rw [answer, Reply.result_eq_outcome, outcomeAt, answered]
      rfl
    rw [info, time, ping, outcome, outcome, outcome]

/-- **The panel's own loading is loading in an order.** -/
theorem loads_loadDashboard (dialed : Transport.new address hasRoots = .ok l.transport)
    (order : List DashboardCall) (clock : Clock) :
    Loads clock l (ownTurns order) (runOn (loadDashboard order clock) l).1 ∧
      ((startDashboard l).run (ownTurns order)).line = (runOn (loadDashboard order clock) l).2 := by
  have turns : (startDashboard l).run (ownTurns order) =
      ((startDashboard l).run dashboardCalls).run (order ++ dashboardCalls) := List.foldl_append ..
  rw [runOn_loadDashboard]
  -- all three calls carry the same credential to the same peer, so they are sent all or none
  cases h : replyAt l.store l.peer DashboardCall.info.ask.method.name with
  | error status =>
    obtain ⟨ended, info, time, ping⟩ := unanswered dialed h
    have stopped : (startDashboard l).run (ownTurns order) = (startDashboard l).turn .info := by
      rw [ownTurns, dashboardCalls, Race.run, List.cons_append, List.foldl_cons]
      exact Race.run_of_failed (by rw [ended]) _
    rw [info, time, ping, joinResults_of_same]
    refine ⟨⟨.error (.ofStatus status), ?_, rfl⟩, ?_⟩
    · rw [stopped, ended]
      exact .failed rfl
    · rw [stopped, ended]
      rfl
  | ok reply =>
    obtain ⟨replies, answered⟩ := exists_replies h
    obtain ⟨reading, info, time, ping, left⟩ := reading_of_answered dialed answered
    obtain ⟨kept, ended⟩ := Race.run_of_reading reading (order ++ dashboardCalls)
    rw [info, time, ping, left, turns, kept]
    refine ⟨?_, rfl⟩
    rw [← turns] at ended
    cases first : Race.firstFailed DashboardCall.ask replies (order ++ dashboardCalls) with
    | some e =>
      rw [first] at ended
      rw [joinResults_of_firstFailed order replies first]
      exact ⟨_, .failed ended, rfl⟩
    | none =>
      rw [first] at ended
      -- a second turn for each call reads its reply, so that this schedule is long enough to join
      have twice (c : DashboardCall) : 2 ≤ (ownTurns order).count c := by
        have once : dashboardCalls.count c = 1 := by cases c <;> decide
        simp only [ownTurns, List.count_append, once]
        omega
      obtain ⟨result, joins⟩ :
          ∃ result, ((Race.start DashboardCall.ask l).run (ownTurns order)).Joins result :=
        Race.exists_joins l twice
      cases joins with
      | failed failed => cases ended.running.symm.trans failed
      | @answers answers running done =>
        have all (c : DashboardCall) : answer replies c = .ok (answers c) := by
          rcases ended.progress c with stage | ⟨b, stage, read⟩
          · cases (done c).symm.trans stage
          · cases (done c).symm.trans stage
            exact read
        rw [joinResults_of_answers order replies all]
        exact ⟨_, .answers running done, rfl⟩

/-- All three calls have ended well, or what comes of loading is the failure of one that has not. -/
theorem loads_cases (dialed : Transport.new address hasRoots = .ok l.transport) {clock : Clock}
    {schedule : List DashboardCall} {result : Except Failure Data} (loads : Loads clock l schedule result) :
    (∃ answers, (∀ c : DashboardCall, outcomeAt l.store l.peer c.ask.method = .ok (answers c)) ∧
      result = .ok (dashboardOf clock answers)) ∨
    ∃ (c : DashboardCall) (status : Status), outcomeAt l.store l.peer c.ask.method = .error status ∧
      result = .error (.ofStatus status) := by
  obtain ⟨joined, joins, rfl⟩ := loads
  have sound : Race.Sound l ((startDashboard l).run schedule) :=
    Race.sound_run dialed faithful_ask ask_name_inj schedule (Race.sound_start _ l)
  obtain ⟨good, bad⟩ := sound.joins joins
  cases joined with
  | ok answers => exact .inl ⟨answers, good answers rfl, rfl⟩
  | error f =>
    obtain ⟨c, status, ended, rfl⟩ := bad f rfl
    exact .inr ⟨c, status, ended, rfl⟩

/-- **What comes of loading does not depend on the order** in which the calls go on. It succeeds exactly if
all three calls do, and then shows what the answers say; if not, it fails with the failure of one of them.
Once each call has had its two turns there is a result. None of the calls is made more than once. And the
panel's own loading, whichever order it names, is loading in some order, and every result is one of its
own. -/
theorem dashboard_any_order (dialed : Transport.new address hasRoots = .ok l.transport) (clock : Clock) :
    let info := outcomeAt l.store l.peer .getServerInfo
    let time := outcomeAt l.store l.peer .timestamp
    let ping := outcomeAt l.store l.peer .ping
    (∀ schedule result, Loads clock l schedule result →
      ((∃ data, result = .ok data) ↔ (∃ i, info = .ok i) ∧ (∃ t, time = .ok t) ∧ ∃ p, ping = .ok p) ∧
      (∀ i t p, info = .ok i → time = .ok t → ping = .ok p →
        result = .ok (.dashboard (.ofResponse i) (instantOf t.timestamp) clock.pingMs)) ∧
      (∀ f, result = .error f → ∃ status, f = .ofStatus status ∧
        (info = .error status ∨ time = .error status ∨ ping = .error status))) ∧
    (∀ schedule, (∀ c, 2 ≤ schedule.count c) → ∃ result, Loads clock l schedule result) ∧
    (∀ schedule, ∃ (issued : List DashboardCall) (calls : List Call),
      ((startDashboard l).run schedule).line.calls = l.calls ++ calls ∧ issued.Nodup ∧
      List.Forall₂ (fun c call => Carries l c.ask.method c.ask.request call) issued calls) ∧
    (∀ order, ∃ schedule, Loads clock l schedule (runOn (loadDashboard order clock) l).1 ∧
      ((startDashboard l).run schedule).line = (runOn (loadDashboard order clock) l).2) ∧
    (∀ schedule result, Loads clock l schedule result →
      ∃ order, (runOn (loadDashboard order clock) l).1 = result) := by
  intro info time ping
  refine ⟨fun schedule result loads => ?_, fun schedule twice => ?_, fun schedule => ?_, fun order => ?_,
    fun schedule result loads => ?_⟩
  -- whatever the schedule, either all three have been answered or one of them has ended the page
  · rcases loads_cases dialed loads with ⟨answers, all, rfl⟩ | ⟨c, status, ended, rfl⟩
    · have good : info = .ok (answers .info) ∧ time = .ok (answers .time) ∧ ping = .ok (answers .ping) :=
        ⟨all .info, all .time, all .ping⟩
      obtain ⟨hi, ht, hp⟩ := good
      refine ⟨⟨fun _ => ⟨⟨_, hi⟩, ⟨_, ht⟩, _, hp⟩, fun _ => ⟨_, rfl⟩⟩, fun i t p hi' ht' _ => ?_, nofun⟩
      cases hi.symm.trans hi'
      cases ht.symm.trans ht'
      rfl
    · have failed : info = .error status ∨ time = .error status ∨ ping = .error status := by
        cases c with
        | info => exact .inl ended
        | time => exact .inr (.inl ended)
        | ping => exact .inr (.inr ended)
      have not_all : ¬ ((∃ i, info = .ok i) ∧ (∃ t, time = .ok t) ∧ ∃ p, ping = .ok p) := by
        rintro ⟨⟨i, hi⟩, ⟨t, ht⟩, p, hp⟩
        rw [hi, ht, hp] at failed
        simp at failed
      refine ⟨⟨by simp, fun all => absurd all not_all⟩,
        fun i t p hi ht hp => absurd ⟨⟨i, hi⟩, ⟨t, ht⟩, p, hp⟩ not_all, fun f same => ?_⟩
      exact ⟨status, (Except.error.inj same).symm, failed⟩
  · obtain ⟨joined, joins⟩ := Race.exists_joins l twice
    exact ⟨_, joined, joins, rfl⟩
  · obtain ⟨issued, calls, left, once, -, carried⟩ :=
      (Race.sound_run dialed faithful_ask ask_name_inj schedule (Race.sound_start _ l)).calls
    exact ⟨issued, calls, left, once, carried⟩
  -- the page is one of the schedules, and each result of a schedule is one of the page
  · exact ⟨ownTurns order, loads_loadDashboard dialed order clock⟩
  · rcases loads_cases dialed loads with ⟨answers, all, rfl⟩ | ⟨c, status, ended, rfl⟩
    · refine ⟨[], ?_⟩
      rw [loadDashboard_result dialed, all .info, all .time, all .ping]
      rfl
    · refine ⟨[c], ?_⟩
      rw [loadDashboard_result dialed]
      cases c <;> rw [ended] <;> rfl

/-- Two of three calls that are answered are not enough, in any order: what comes of loading is that the third
is refused. When it is answered too, what is shown is what the two say. -/
theorem dashboard_any_order_refused :
    let line (ping : Reply) : Line := ⟨⟨.memory [("token", "t")], {}⟩, ⟨"http://h", ⟨"http", "h", ""⟩⟩,
      .scripted [("Timestamp", [.messages [[10, 2, 8, 59]] (.status .ok "")]), ("Ping", [ping]),
        ("GetServerInfo", [.messages [[]] (.status .ok "")])], []⟩
    (∀ schedule result, Loads default (line (.statusOnly .permissionDenied "no")) schedule result →
      result = .error (.authentication "no")) ∧
    (∀ schedule result, Loads default (line (.messages [[]] (.status .ok ""))) schedule result →
      result = .ok (.dashboard (.ofResponse {}) (Time.Instant.ofParts? 59 0) default)) := by
  intro line
  constructor
  · intro schedule result loads
    let l := line (.statusOnly .permissionDenied "no")
    have dialed : Transport.new "http://h" true = .ok l.transport := by decide +kernel
    have info : outcomeAt l.store l.peer .getServerInfo = .ok {} := by rfl
    have time : outcomeAt l.store l.peer .timestamp = .ok { timestamp := some { seconds := 59 } } := by rfl
    have ping : outcomeAt l.store l.peer .ping =
        .error ⟨.permissionDenied, "no", responseHeaders⟩ := by rfl
    obtain ⟨fate, -⟩ := dashboard_any_order dialed default
    obtain ⟨succeeds, -, fails⟩ := fate schedule result loads
    cases result with
    | ok data =>
      obtain ⟨-, -, p, answered⟩ := succeeds.mp ⟨data, rfl⟩
      cases ping.symm.trans answered
    | error f =>
      obtain ⟨status, rfl, failed | failed | failed⟩ := fails f rfl
      · cases info.symm.trans failed
      · cases time.symm.trans failed
      · cases ping.symm.trans failed
        exact congrArg Except.error (by decide +kernel : _ = Failure.authentication "no")
  · intro schedule result loads
    have dialed : Transport.new "http://h" true = .ok (line (.messages [[]] (.status .ok ""))).transport := by
      decide +kernel
    obtain ⟨fate, -⟩ := dashboard_any_order dialed default
    exact (fate schedule result loads).2.1 {} { timestamp := some { seconds := 59 } } {} (by rfl) (by rfl)
      (by rfl)

end Loading

end AdminPanel.Page
