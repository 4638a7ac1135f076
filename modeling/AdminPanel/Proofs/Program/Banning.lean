import AdminPanel.Proofs.Page.SingleCall
import AdminPanel.Proofs.Program.Discretion

/-!
# Bans that are reported

A run that bans a user either fails, and then it reports nothing, or it has made one call with the whole
request, and then it reports the ban (`run_ban`).

The report names the seconds that were asked for. What the server reads is a signed word, in which they
wrap around: below 2^63 seconds the ban lasts as long as it is reported for, and from there on the server is
sent a negative number of seconds (`ban_lasts`).
-/

namespace AdminPanel.Program

open Message
open Rpc

variable {words : List String} {flags : Flags} {userId : UInt64}
  {seconds : Option UInt64} {reason : Option String}

/-! ## The command -/

/-- What is reported of a ban. -/
def banReport (userId : UInt64) : Option UInt64 → String
  | some n => s!"User {userId.toNat} banned for {n.toNat}s"
  | none => s!"User {userId.toNat} banned"

/-- What is asked for when a user is banned. -/
def banRequest (userId : UInt64) (seconds : Option UInt64) (reason : Option String) : BanUserRequest where
  userId := userId
  reason := reason
  duration := seconds.map fun n => .ofSeconds n 0

theorem faithful_banRequest (userId : UInt64) (seconds : Option UInt64) (reason : Option String) :
    Faithful .banUser (banRequest userId seconds reason) where
  named := by decide
  declared := by simp [declared, Method.banUser]
  unsigned := by cases seconds <;> cases reason <;> rfl

/-- A ban: the guard, one call, and the report if that succeeds. -/
theorem runAct_ban (s : State) :
    runAct (ban userId seconds reason) s =
      if Session.isOpen s.panel.line.store then
        match runOn (unary .banUser (banRequest userId seconds reason)) s.panel.line with
        | (.error e, l) => (.error (.rpc e), { s with panel := ⟨l, some .users, s.panel.opened⟩ })
        | (.ok _, l) => (.ok (), { s with
            panel := ⟨l, some .users, s.panel.opened⟩
            stdout := s.stdout ++ (banReport userId seconds ++ "\n") })
      else (.error (.notLoggedIn Route.users.path), s.sentAway Route.users.path) := by
  -- the page's `ban` is the unary call with its answer dropped
  have called (l : Line) : runOn (Page.ban userId (seconds.map fun n => .ofSeconds n 0) reason) l =
      ((runOn (unary .banUser (banRequest userId seconds reason)) l).1.map fun _ => (),
        (runOn (unary .banUser (banRequest userId seconds reason)) l).2) := by
    show runOn (do
      let _ ← unary .banUser (banRequest userId seconds reason)
      pure ()) l = _
    rw [runOn_bind]
    rcases runOn (unary .banUser (banRequest userId seconds reason)) l with ⟨_ | _, _⟩ <;> rfl
  unfold ban
  rw [runAct_bind, runAct_enter]
  cases Session.isOpen s.panel.line.store with
  | false => rfl
  | true =>
    rw [if_pos (.inr rfl), if_pos rfl]
    dsimp only
    rw [runAct_bind, call, runAct_onLine, called]
    rcases runOn (unary .banUser (banRequest userId seconds reason)) s.panel.line with ⟨_ | _, _⟩
    · rfl
    · cases seconds <;> rfl

/-- **A ban that is reported has been sent.** A run that bans fails without a report, or it reports the ban
and has made one call, which carries the whole request. -/
theorem run_ban (host : Host)
    (parsed : CommandLine.parse words = .ok ⟨.ban userId seconds reason, flags⟩) :
    let o := run host words
    (o.exit = 1 ∧ o.stdout = "") ∨
    (o.exit = 0 ∧ o.stdout = banReport userId seconds ++ "\n" ∧
      ∃ l c, o.calls = [c] ∧ Carries l .banUser (banRequest userId seconds reason) c) := by
  intro o
  have ran : o = runCommand (withVariables host) ⟨.ban userId seconds reason, flags⟩ := by
    show run host words = _
    rw [run, parsed]
  rw [ran, runCommand_eq]
  -- settings, address, session and call, in this order: whichever fails, nothing is printed
  cases settingsOf (withVariables host) flags with
  | error e => exact .inl ⟨rfl, rfl⟩
  | ok settings =>
    cases dialed : Transport.new settings.baseAddress (withVariables host).hasRoots with
    | error e =>
      simp only [dialed]
      exact .inl ⟨rfl, rfl⟩
    | ok transport =>
      simp only [dialed, act, runAct_ban]
      split
      · have ends := ends_unary
          (l := (started (withVariables host) settings transport).panel.line) dialed
          (faithful_banRequest userId seconds reason)
        generalize runOn (unary .banUser (banRequest userId seconds reason))
          (started (withVariables host) settings transport).panel.line = r at ends ⊢
        cases ends with
        | unsent h => exact .inl ⟨rfl, rfl⟩
        | @answered c carries =>
          cases outcomeAt _ _ Method.banUser with
          | error status => exact .inl ⟨rfl, rfl⟩
          | ok response => exact .inr ⟨rfl, String.empty_append, _, c, rfl, carries⟩
      · exact .inl ⟨rfl, rfl⟩

/-! ## How long a ban lasts -/

/-- **A timed ban lasts as long as it is reported for, if that is less than 2^63 seconds.** Of any command
line that bans a user for a time, the run succeeds exactly if it reports the ban for all the seconds that
were asked for. It has then made one call, in which the server reads the user, the reason, no nanoseconds,
and the seconds as a signed word: below 2^63 those that were reported, and from there on a negative
number. -/
theorem ban_lasts {host : Host} {words : List String} {userId n : UInt64} {reason : Option String}
    {flags : Flags} (parsed : CommandLine.parse words = .ok ⟨.ban userId (some n) reason, flags⟩) :
    let o := run host words
    (o.exit = 0 ↔ o.stdout = s!"User {userId.toNat} banned for {n.toNat}s" ++ "\n") ∧
    (o.exit = 0 → ∃ (front : String) (c : Call) (d : Message.Duration),
      let request : BanUserRequest := { userId := userId, reason := reason, duration := some d }
      o.calls = [c] ∧
      c.path = front ++ "/service.server_manage.v1.ServerManageService/BanUser" ∧
      c.body = Method.banUser.request.write request ∧
      (c.body.length < 2 ^ 64 → Method.banUser.request.read c.body = .ok request) ∧
      d.nanos = 0 ∧
      d.seconds.toInt = (if n.toNat < 2 ^ 63 then (n.toNat : Int) else n.toNat - 2 ^ 64) ∧
      (d.seconds.toInt = n.toNat ↔ n.toNat < 2 ^ 63) ∧
      (d.seconds.toInt < 0 ↔ 2 ^ 63 ≤ n.toNat)) := by
  intro o
  rcases run_ban host parsed with ⟨exit, stdout⟩ | ⟨exit, stdout, l, c, calls, carries⟩
  · have failed : o.exit ≠ 0 := by
      rw [show o.exit = 1 from exit]
      decide
    refine ⟨⟨fun ok => absurd ok failed, fun reported => ?_⟩, fun ok => absurd ok failed⟩
    -- a report has at least the end of its line
    rw [show o.stdout = "" from stdout] at reported
    exact absurd (String.append_eq_empty_iff.mp reported.symm).2 (by decide)
  · have path : c.path =
        l.transport.base.pathPrefix ++ "/service.server_manage.v1.ServerManageService/BanUser" := by
      rw [carries.path]
      simp only [String.append_assoc]
      rfl
    have sent := Page.seconds_ofSeconds n 0
    have below := n.toNat_lt
    refine ⟨⟨fun _ => stdout, fun _ => exit⟩, fun _ => ?_⟩
    refine ⟨_, c, .ofSeconds n 0, calls, path, carries.body, carries.read, rfl, sent, ?_, ?_⟩
    · rw [sent]
      split <;> omega
    · rw [sent]
      split <;> omega

/-- A host with a session, and a server that grants bans. -/
def hostGranting : Host :=
  { hostKeeping "a" with peer := .scripted [("BanUser", [.messages [[]] (.status .ok "")])] }

theorem exit_hostGranting
    (parsed : CommandLine.parse words = .ok ⟨.ban userId seconds reason, {}⟩) :
    (run hostGranting words).exit = 0 := by
  have settings : settingsOf (withVariables hostGranting) {} = .ok {} := by
    unfold settingsOf
    rw [settingsPath_of_none rfl rfl]
    decide +kernel
  have transport : Transport.new ({} : Settings).baseAddress true =
      .ok ⟨"http://127.0.0.1:7777/backend", ⟨"http", "127.0.0.1:7777", "/backend"⟩⟩ := rfl
  have hasRoots : (withVariables hostGranting).hasRoots = true := rfl
  have path : (withVariables hostGranting).storagePath = ["d", "ocpanel", "storage.json"] :=
    storagePath_hostKeeping "a"
  rw [run, parsed]
  simp only [runCommand_eq, settings, hasRoots, transport, act, runAct_ban, started, path]
  have isOpen : Session.isOpen (({} : Settings).openStore ["d", "ocpanel", "storage.json"]
      (withVariables hostGranting).files) = true := by decide +kernel
  have attached : attach (({} : Settings).openStore ["d", "ocpanel", "storage.json"]
      (withVariables hostGranting).files) [] = .ok [(authorization, "Bearer a")] := by decide +kernel
  rw [if_pos isOpen, runOn_unary_of_reply (banRequest userId seconds reason) rfl attached rfl]
  rfl

/-- A ban for an hour. -/
theorem ban_lasts_hour :
    let o := run hostGranting ["ban", "7", "--seconds", "3600", "--reason", "spam"]
    o.stdout = "User 7 banned for 3600s\n" ∧
    ∃ c d, o.calls = [c] ∧ Method.banUser.request.read c.body =
      .ok { userId := 7, reason := some "spam", duration := some d } ∧
      d.nanos = 0 ∧ d.seconds.toInt = 3600 := by
  intro o
  have parsed : CommandLine.parse ["ban", "7", "--seconds", "3600", "--reason", "spam"] =
      .ok ⟨.ban 7 (some 3600) (some "spam"), {}⟩ := by decide
  obtain ⟨reported, sent⟩ : _ ∧ (o.exit = 0 → _) := ban_lasts parsed
  have ok : o.exit = 0 := exit_hostGranting parsed
  obtain ⟨front, c, ⟨seconds, nanos⟩, calls, -, body, read, whole, -, lasts, -⟩ := sent ok
  have hour : seconds.toInt = 3600 := lasts.mpr (by decide)
  obtain rfl : seconds = 3600 := Int64.toInt_inj.mp hour
  obtain rfl : nanos = 0 := whole
  refine ⟨reported.mp ok, c, _, calls, read ?_, rfl, hour⟩
  rw [body]
  decide +kernel

/-- A ban for 2^63 seconds is reported, and sent as one for a negative number of seconds. -/
theorem ban_lasts_wrapped :
    let o := run hostGranting ["ban", "7", "--seconds", "9223372036854775808"]
    o.stdout = "User 7 banned for 9223372036854775808s\n" ∧
    ∃ c d, o.calls = [c] ∧ Method.banUser.request.read c.body =
      .ok { userId := 7, reason := none, duration := some d } ∧
      d.seconds.toInt = -9223372036854775808 := by
  intro o
  have parsed : CommandLine.parse ["ban", "7", "--seconds", "9223372036854775808"] =
      .ok ⟨.ban 7 (some 9223372036854775808) none, {}⟩ := by decide
  rcases run_ban hostGranting parsed with ⟨exit, -⟩ | ⟨-, stdout, l, c, calls, carries⟩
  · rw [exit_hostGranting parsed] at exit
    exact absurd exit (by decide)
  · refine ⟨stdout.trans (by decide), c, _, calls, carries.read ?_, ?_⟩
    · rw [carries.body]
      decide
    · rw [Page.seconds_ofSeconds]
      decide

end AdminPanel.Program
