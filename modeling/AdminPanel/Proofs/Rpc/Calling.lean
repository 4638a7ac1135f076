import AdminPanel.Proofs.Message.RoundTrip
import AdminPanel.Proofs.Rpc.Answering
import AdminPanel.Proofs.Rpc.Dialing

/-!
# Calls below an address that can be dialed

Below such an address a call fails for what the session, the peer or its reply is, and for nothing else. So
how it ends can be told without the line that it is made on, and what it leaves there is itself.

* **`Reply.outcome`**, **`outcomeAt`** — how a call with a single answer ends, by its reply, and by the
  session and the peer.
* **`Carries`** — what a call looks like that has arrived: its path, its credential, and its request, which
  the server reads as it was meant if it is `Faithful`.
* **`sends_send`**, **`ends_unary`** — a call is either not sent, and then nothing has happened, or it is
  the one call that is recorded.
* **`makes_unary_bind`** — what depends on the answer of a call follows it, if it succeeds.
-/

namespace AdminPanel.Rpc

open Storage (Store)

variable {α β γ : Type}

/-! ## How a call ends -/

/-- The final status of messages that do not end well, with headers of the response. -/
def Ending.bad? (headers : Headers) (ending : Ending) : Option Status :=
  if ending.code = .ok then none else some ⟨ending.code, ending.message, headers⟩

/-- How a call with a single answer ends. The first message counts, and the others do not; that it cannot
be read comes before a status that is not good, and that comes before the message. An answer without a
message is none, even if its status is good. -/
def Reply.outcome (m : Method α β) : Reply → Except Status β
  | .messages [] ending => .error ((ending.bad? responseHeaders).getD missingMessage)
  | .messages (body :: _) ending =>
    match m.response.read body with
    | .error e => .error ⟨.internal, e.message, []⟩
    | .ok b => (ending.bad? []).elim (.ok b) .error
  | .statusOnly code message =>
    .error (if code = .ok then missingMessage else ⟨code, message, responseHeaders⟩)
  | .http status => .error (if status = 200 then missingMessage else httpStatus status)

theorem Ending.failure?_eq (headers : Headers) (ending : Ending) :
    ending.failure? headers = (ending.bad? headers).map .ofStatus := by
  rw [failure?, bad?]
  split <;> rfl

/-- The status in which messages end badly is the one that they end with. -/
theorem Ending.bad?_eq_some_iff {headers : Headers} {ending : Ending} {status : Status} :
    ending.bad? headers = some status ↔
      ending.code ≠ .ok ∧ status = ⟨ending.code, ending.message, headers⟩ := by
  rw [bad?]
  split
  · next good => simp [good]
  · next bad => simp [bad, eq_comm]

/-- A call fails with the failure that its status means. -/
theorem Reply.result_eq_outcome (m : Method α β) (reply : Reply) :
    reply.result m = (reply.outcome m).mapError .ofStatus := by
  cases reply with
  | statusOnly code message =>
    rw [result, outcome]
    split <;> rfl
  | http status =>
    rw [result, outcome]
    split <;> rfl
  | messages bodies ending =>
    cases bodies with
    | nil =>
      rw [result, Rpc.result, outcome, Ending.failure?_eq]
      cases ending.bad? responseHeaders <;> rfl
    | cons body bodies =>
      rw [result, Rpc.result, outcome, Ending.failure?_eq]
      cases m.response.read body with
      | error e => rfl
      | ok b => cases ending.bad? [] <;> rfl

/-- A call succeeds exactly if the first message of its reply can be read and its final status is good. -/
theorem Reply.outcome_eq_ok_iff {m : Method α β} {reply : Reply} {b : β} :
    reply.outcome m = .ok b ↔ ∃ body bodies ending, reply = .messages (body :: bodies) ending ∧
      m.response.read body = .ok b ∧ ending.code = .ok := by
  have ok : reply.outcome m = .ok b ↔ reply.result m = .ok b := by
    rw [result_eq_outcome]
    cases reply.outcome m <;> simp [Except.mapError]
  rw [ok, result_eq_ok_iff]
  refine exists_congr fun body => exists_congr fun bodies => exists_congr fun ending => ?_
  exact and_congr_right fun _ => And.comm

/-! ## Sessions that work -/

/-- A session out of which calls can be made: its storage can be read, and a header can carry the token,
if there is one. -/
def Working (s : Store) : Prop :=
  ∃ v, Session.token s = .ok v ∧ ∀ t, v = some t → (bearer t).toList.all isHeaderChar

theorem Working.exists_attach {s : Store} (h : Working s) : ∃ headers, attach s [] = .ok headers := by
  obtain ⟨v, token, sendable⟩ := h
  rw [attach, token]
  cases v with
  | none => exact ⟨[], rfl⟩
  | some t => exact ⟨_, if_pos (sendable t rfl)⟩

/-! ## What has arrived -/

/-- A request that can be told from its bytes, for a method whose name can stand in a path. -/
structure Faithful (m : Method α β) (request : α) : Prop where
  named : Address.IsPathText m.name
  declared : ⟨α, m.request⟩ ∈ Message.declared
  unsigned : m.request.unsigned request = request

/-- A call as it arrives that has been made on a line: below the prefix of the address, with the credential
of the session, and with the request. The bytes of a request are one vector, and no vector is longer than a
word of 64 bits can count. -/
structure Carries (l : Line) (m : Method α β) (request : α) (c : Call) : Prop where
  path : c.path = l.transport.base.pathPrefix ++ "/" ++ m.service.name ++ "/" ++ m.name
  credited : Credited l.store c
  body : c.body = m.request.write request
  read : c.body.length < 2 ^ 64 → m.request.read c.body = .ok request

/-- The status of a call that finds nobody. -/
def unreachable : Status := ⟨.unavailable, "tcp connect error", []⟩

/-- What a call of a method is answered, out of a session and at a peer. A session that cannot be attached
comes before a peer that cannot be reached. -/
def replyAt (s : Store) (p : Peer) (method : String) : Except Status Reply :=
  match attach s [] with
  | .error status => .error status
  | .ok _ => (p.answer method).1.elim (.error unreachable) .ok

/-- The line after a call has arrived. -/
def Line.after (l : Line) (method : String) (c : Call) : Line :=
  { l with peer := (l.peer.answer method).2, calls := l.calls ++ [c] }

/-- A later call looks as if it had been the first. -/
theorem Carries.of_after {l : Line} {method : String} {m : Method α β} {request : α} {c c' : Call}
    (h : Carries (l.after method c) m request c') : Carries l m request c' :=
  ⟨h.path, h.credited, h.body, h.read⟩

/-- The ways in which the making of a call can end below an address that can be dialed. -/
inductive Sends (l : Line) (m : Method α β) (request : α) : Except Failure Reply × Line → Prop where
  | unsent {status : Status} (h : replyAt l.store l.peer m.name = .error status) :
    Sends l m request (.error (.ofStatus status), l)
  | sent {reply : Reply} {c : Call} (h : replyAt l.store l.peer m.name = .ok reply)
      (carries : Carries l m request c) : Sends l m request (.ok reply, l.after m.name c)

section

variable {l : Line} {address : String} {hasRoots : Bool} {m : Method α β} {request : α}

theorem sends_send (dialed : Transport.new address hasRoots = .ok l.transport)
    (faithful : Faithful m request) : Sends l m request (runOn (send m request) l) := by
  have path := Transport.methodPath_of_new dialed m.service faithful.named
  -- the request is one of the declared ones, so that it can be read back from its bytes
  have read (short : (m.request.write request).length < 2 ^ 64) :
      m.request.read (m.request.write request) = .ok request := by
    rw [Wire.Layout.read_write (Message.declared_lawful ⟨α, m.request⟩ faithful.declared) request short,
      faithful.unsigned]
  unfold send
  simp only [runOn_bind, runOn_get, path, runOn_pure]
  cases attached : attach l.store [] with
  | error status => exact .unsent (by rw [replyAt, attached])
  | ok headers =>
    simp only [runOn_pure]
    rcases answered : l.peer.answer m.name with ⟨_ | reply, peer⟩
    · have nobody : replyAt l.store l.peer m.name = .error unreachable := by
        rw [replyAt, attached, answered]
        rfl
      exact .unsent nobody
    · have carries : Carries l m request
          ⟨_, headers.values authorization, m.request.write request⟩ :=
        ⟨rfl, credited_of_attach attached _ _, rfl, read⟩
      have left := Sends.sent (by rw [replyAt, attached, answered]; rfl) carries
      rw [Line.after, answered] at left
      exact left

/-! ## A single answer -/

/-- How a call with a single answer ends, out of a session and at a peer. -/
def outcomeAt (s : Store) (p : Peer) (m : Method α β) : Except Status β :=
  (replyAt s p m.name).bind fun reply => reply.outcome m

/-- The ways in which a call with a single answer can end below an address that can be dialed. -/
inductive Ends (l : Line) (m : Method α β) (request : α) : Except Failure β × Line → Prop where
  | unsent {status : Status} (h : replyAt l.store l.peer m.name = .error status) :
    Ends l m request (.error (.ofStatus status), l)
  | answered {c : Call} (carries : Carries l m request c) :
    Ends l m request ((outcomeAt l.store l.peer m).mapError .ofStatus, l.after m.name c)

theorem ends_unary (dialed : Transport.new address hasRoots = .ok l.transport)
    (faithful : Faithful m request) : Ends l m request (runOn (unary m request) l) := by
  have sends := sends_send dialed faithful
  rw [runOn_unary]
  generalize runOn (send m request) l = r at sends ⊢
  cases sends with
  | unsent h => exact .unsent h
  | sent h carries =>
    have ended := Ends.answered carries
    rw [outcomeAt, h] at ended
    simp only [Reply.result_eq_outcome]
    exact ended

/-- Whether it is sent or not, a call gives what a call gives out of this session and at this peer. -/
theorem Ends.result {r : Except Failure β × Line} (h : Ends l m request r) :
    r.1 = (outcomeAt l.store l.peer m).mapError .ofStatus := by
  cases h with
  | unsent h =>
    rw [outcomeAt, h]
    rfl
  | answered => rfl

/-! ## Calls that follow each other -/

/-- How the result of an action and the calls that it adds to a line belong together. -/
def Makes (l : Line) (R : Except Failure γ → List Call → Prop) (r : Except Failure γ × Line) : Prop :=
  ∃ calls, r.2.calls = l.calls ++ calls ∧ R r.1 calls

variable {R : Except Failure γ → List Call → Prop}

theorem makes_pure {x : γ} (h : R (.ok x) []) : Makes l R (runOn (pure x : OnLine γ) l) :=
  ⟨[], (List.append_nil _).symm, h⟩

/-- What depends on the answer of a call starts on the line that the call has left, and only if the call
has succeeded. -/
theorem makes_unary_bind (dialed : Transport.new address hasRoots = .ok l.transport)
    (faithful : Faithful m request) {next : β → OnLine γ}
    (unsent : ∀ status, outcomeAt l.store l.peer m = .error status → R (.error (.ofStatus status)) [])
    (failed : ∀ status c, outcomeAt l.store l.peer m = .error status → Carries l m request c →
      R (.error (.ofStatus status)) [c])
    (answered : ∀ b c, outcomeAt l.store l.peer m = .ok b → Carries l m request c →
      Makes (l.after m.name c) (fun result calls => R result (c :: calls))
        (runOn (next b) (l.after m.name c))) :
    Makes l R (runOn (unary m request >>= next) l) := by
  have ends := ends_unary dialed faithful
  rw [runOn_bind]
  generalize runOn (unary m request) l = r at ends ⊢
  cases ends with
  | unsent h => exact ⟨[], (List.append_nil _).symm, unsent _ (by rw [outcomeAt, h]; rfl)⟩
  | @answered c carries =>
    cases h : outcomeAt l.store l.peer m with
    | error status => exact ⟨[c], rfl, failed status c h carries⟩
    | ok b =>
      obtain ⟨calls, left, related⟩ := answered b c h carries
      exact ⟨c :: calls, left.trans (List.append_assoc ..), related⟩

end

end AdminPanel.Rpc
