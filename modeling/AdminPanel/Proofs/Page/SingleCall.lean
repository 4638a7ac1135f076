import AdminPanel.Proofs.Page.Asking
import AdminPanel.Proofs.Rpc.Calling

/-!
# Actions that make one call

Most actions are one call with a single answer. Out of a session that works, and below an address that
can be dialed, such an action makes its call once, sends what it was asked to send, and reports a success
only if the peer has.

* **`MakesOneCall`** — what an action of one call does on a line; all of them do so for the reason of
  `makesOneCall_of_unary`.
* **`actions_make_one_call`** — the actions, each with its method and its request.
-/

namespace AdminPanel.Page

open Rpc
open Message

variable {α β γ : Type}

/-! ## Making one call -/

/-- What an action does on a line to a scripted peer that is one call of a method, with a request, and that
gives a value of its answer.

The one call is all that the action adds to the line; it goes to the path of the method below the prefix of
the address, with the credential of the session, and the server reads the request in it; its bytes are one
vector, and no vector is longer than a word of 64 bits can count. The script has advanced by one reply, and
what that reply means is the result of the action. -/
structure MakesOneCall (l : Line) (script : Script) (m : Method α β) (request : α) (value : β → γ)
    (act : OnLine γ) : Prop where
  call : ∃ c, (runOn act l).2 =
      { l with peer := .scripted (script.next m.name).2, calls := l.calls ++ [c] } ∧
    c.path = l.transport.base.pathPrefix ++ "/" ++ m.service.name ++ "/" ++ m.name ∧
    Credited l.store c ∧ c.body = m.request.write request ∧
    (c.body.length < 2 ^ 64 → m.request.read c.body = .ok request)
  result : (runOn act l).1 = (((script.next m.name).1.outcome m).map value).mapError .ofStatus
  succeeds : ∀ v, (runOn act l).1 = .ok v ↔ ∃ body bodies ending b,
    (script.next m.name).1 = .messages (body :: bodies) ending ∧ m.response.read body = .ok b ∧
      ending.code = .ok ∧ v = value b

/-- An action that is one call with a value of its answer makes this call once, if the request is one that
can be told from its bytes. -/
theorem makesOneCall_of_unary {l : Line} {script : Script} {m : Method α β} {request : α} {value : β → γ}
    {act : OnLine γ} {address : String} {hasRoots : Bool}
    (dialed : Transport.new address hasRoots = .ok l.transport) (peer : l.peer = .scripted script)
    (working : Working l.store) (named : Address.IsPathText m.name)
    (mem : ⟨α, m.request⟩ ∈ declared) (same : m.request.unsigned request = request)
    (one : act = do return value (← unary m request)) :
    MakesOneCall l script m request value act := by
  obtain ⟨headers, attached⟩ := working.exists_attach
  have reply : replyAt l.store l.peer m.name = .ok (script.next m.name).1 := by
    rw [replyAt, attached, peer]
    rfl
  have outcome : outcomeAt l.store l.peer m = (script.next m.name).1.outcome m := by
    rw [outcomeAt, reply]
    rfl
  -- a session that works and a peer that answers leave one way in which the call can end
  obtain ⟨c, carries, ran⟩ : ∃ c, Carries l m request c ∧ runOn (unary m request) l =
      (((script.next m.name).1.outcome m).mapError .ofStatus, l.after m.name c) := by
    have ends := ends_unary dialed ⟨named, mem, same⟩
    generalize runOn (unary m request) l = r at ends
    cases ends with
    | unsent h => cases reply.symm.trans h
    | @answered c carries => exact ⟨c, carries, by rw [outcome]⟩
  have result : (runOn act l).1 = (((script.next m.name).1.outcome m).map value).mapError .ofStatus := by
    rw [one, runOn_bind, ran]
    cases (script.next m.name).1.outcome m <;> rfl
  have left : (runOn act l).2 = l.after m.name c := by
    rw [one, runOn_bind, ran]
    cases (script.next m.name).1.outcome m <;> rfl
  have advanced : l.after m.name c =
      { l with peer := .scripted (script.next m.name).2, calls := l.calls ++ [c] } := by
    rw [Line.after, peer]
    rfl
  refine ⟨⟨c, left.trans advanced, carries.path, carries.credited, carries.body, carries.read⟩,
    result, fun v => ?_⟩
  have ok : (runOn act l).1 = .ok v ↔ ∃ b, (script.next m.name).1.outcome m = .ok b ∧ v = value b := by
    rw [result]
    cases (script.next m.name).1.outcome m <;> simp [Except.map, Except.mapError, eq_comm]
  rw [ok]
  simp only [Reply.outcome_eq_ok_iff]
  constructor
  · rintro ⟨b, ⟨body, bodies, ending, reply, read, good⟩, value⟩
    exact ⟨body, bodies, ending, b, reply, read, good, value⟩
  · rintro ⟨body, bodies, ending, b, reply, read, good, value⟩
    exact ⟨b, ⟨body, bodies, ending, reply, read, good⟩, value⟩

/-! ## The actions -/

/-- The seconds of a length of time are sent in a signed word: from 2^63 on they wrap around. -/
theorem seconds_ofSeconds (seconds : UInt64) (nanos : UInt32) :
    (Duration.ofSeconds seconds nanos).seconds.toInt =
      if seconds.toNat < 2 ^ 63 then (seconds.toNat : Int) else seconds.toNat - 2 ^ 64 := by
  have toInt : (Duration.ofSeconds seconds nanos).seconds.toInt =
      if 2 * seconds.toNat < 2 ^ 64 then (seconds.toNat : Int) else seconds.toNat - (2 ^ 64 : Nat) :=
    seconds.toBitVec.toInt_eq_toNat_cond
  rw [toInt]
  split <;> split <;> omega

/-- A length of time below half of what its word of seconds can count is sent as it is. -/
theorem toInt_ofSeconds {seconds : UInt64} {nanos : UInt32} (inSeconds : seconds.toNat < 2 ^ 63)
    (inNanos : nanos.toNat < 10 ^ 9) :
    (Duration.ofSeconds seconds nanos).seconds.toInt = seconds.toNat ∧
      (Duration.ofSeconds seconds nanos).nanos.toInt = nanos.toNat := by
  constructor
  · rw [seconds_ofSeconds, if_pos inSeconds]
  · exact BitVec.toInt_eq_toNat_of_lt (x := nanos.toBitVec) (by
      rw [UInt32.toNat_toBitVec]
      omega)

/-- **What is asked is what is sent, and success is not invented.** Out of a session that works, below an
address that can be dialed, to a peer that answers by any script: switching the running state, banning for
good or for less than 2^63 seconds, lifting a ban, deleting an account and asking for the configuration
each make exactly one call, of their own method, in which the server reads exactly what was asked for; and
they succeed exactly if the first message of the reply can be read and the final status, which is waited
for however late it comes, is good. A peer that never sends one gives no reply here, and the action no
result. -/
theorem actions_make_one_call {address : String} {hasRoots : Bool} {l : Line} {script : Script}
    (dialed : Transport.new address hasRoots = .ok l.transport) (peer : l.peer = .scripted script)
    (working : Working l.store) :
    (∀ status reason, MakesOneCall l script .setServerStatus
      { serverStatus := status.code, reason := reason } (fun _ => ()) (setStatus status reason)) ∧
    (∀ userId reason (duration : Option (UInt64 × UInt32)),
      (∀ d ∈ duration, d.1.toNat < 2 ^ 63 ∧ d.2.toNat < 10 ^ 9) →
      ∃ sent : Option Message.Duration,
        (sent.map fun d => (d.seconds.toInt, d.nanos.toInt)) =
          (duration.map fun d => ((d.1.toNat : Int), (d.2.toNat : Int))) ∧
        MakesOneCall l script .banUser { userId := userId, reason := reason, duration := sent }
          (fun _ => ()) (ban userId (duration.map fun d => .ofSeconds d.1 d.2) reason)) ∧
    (∀ userId, MakesOneCall l script .unbanUser { userId := userId } (fun _ => ()) (unban userId)) ∧
    (∀ userId, MakesOneCall l script .deleteAccount { userId := userId } (fun _ => ())
      (deleteAccount userId)) ∧
    MakesOneCall l script .getConfig {} (·.content) loadConfigText := by
  have one {α β γ : Type} {m : Method α β} {request : α} {value : β → γ} {act : OnLine γ} :
      Address.IsPathText m.name → ⟨α, m.request⟩ ∈ declared → m.request.unsigned request = request →
      (act = do return value (← unary m request)) → MakesOneCall l script m request value act :=
    makesOneCall_of_unary dialed peer working
  refine ⟨fun status reason => ?_, fun userId reason duration short => ?_, fun userId => ?_,
    fun userId => ?_, ?_⟩
  · exact one (by decide) (by simp [declared, Method.setServerStatus]) rfl rfl
  · refine ⟨duration.map fun d => .ofSeconds d.1 d.2, ?_, ?_⟩
    · cases duration with
      | none => rfl
      | some d =>
        -- in this range the conversion to the signed word keeps the seconds
        obtain ⟨seconds, nanos⟩ := toInt_ofSeconds (short d rfl).1 (short d rfl).2
        simp only [Option.map_some, seconds, nanos]
    · refine one (by decide) (by simp [declared, Method.banUser]) ?_ rfl
      cases reason <;> cases duration <;> rfl
  · exact one (by decide) (by simp [declared, Method.unbanUser]) rfl rfl
  · exact one (by decide) (by simp [declared, Method.deleteAccount]) rfl rfl
  · exact one (by decide) (by simp [declared, Method.getConfig]) rfl rfl

/-- A ban for good with an empty reason, below a prefix, at a peer that grants it with its first message and
lets one follow that cannot be read: one call, in which the reason is there and no length of time. -/
theorem actions_make_one_call_ban :
    let l : Line := ⟨⟨.memory [("token", "t")], {}⟩, ⟨"http://h/api", ⟨"http", "h", "/api"⟩⟩,
      .scripted [("BanUser", [.messages [[], [255]] (.status .ok "")])], []⟩
    ∃ c, (runOn (ban 7 none (some "")) l).2.calls = [c] ∧
      c.path = "/api/service.server_manage.v1.ServerManageService/BanUser" ∧
      Method.banUser.request.read c.body = .ok { userId := 7, reason := some "", duration := none } ∧
      (runOn (ban 7 none (some "")) l).1 = .ok () := by
  intro l
  have dialed : Transport.new "http://h/api" true = .ok l.transport := by decide +kernel
  have working : Working l.store := ⟨some "t", by decide +kernel, by decide +kernel⟩
  obtain ⟨-, bans, -⟩ := actions_make_one_call dialed rfl working
  obtain ⟨sent, asked, made⟩ := bans 7 (some "") none nofun
  obtain rfl : sent = none := by simpa using asked
  obtain ⟨c, left, path, -, body, read⟩ := made.call
  refine ⟨c, congrArg Line.calls left, path.trans (by decide +kernel), read ?_, ?_⟩
  · rw [body]
    decide +kernel
  · exact (made.succeeds ()).2 ⟨[], [[255]], _, _, rfl, by rfl, rfl, rfl⟩

end AdminPanel.Page
