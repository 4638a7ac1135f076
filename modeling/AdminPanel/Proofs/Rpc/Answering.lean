import AdminPanel.Proofs.Rpc.Asking

/-!
# What a call with a single answer gives

What a reply means does not depend on the line it came by (`Reply.result`): the first of its messages
counts, and only if the reply ends well. So a call with a single answer either is not sent, and then
nothing has happened, or it is the one call that is recorded, and gives what its reply means
(`unary_cases`).
-/

namespace AdminPanel.Rpc

variable {α β : Type}

/-! ## What a reply means -/

/-- What is wrong with an ending to whoever waits for its status, with headers of the response. -/
def Ending.failure? (headers : Headers) (ending : Ending) : Option Failure :=
  if ending.code = .ok then none else some (.ofStatus ⟨ending.code, ending.message, headers⟩)

/-- Nothing is wrong with an ending exactly if its status is good, at once or late. -/
theorem Ending.failure?_eq_none_iff {headers : Headers} {ending : Ending} :
    ending.failure? headers = none ↔ ending.code = .ok := by
  simp [failure?]

/-- What messages with an ending mean to a call with a single answer: the first of them is read, then
the ending is looked at. -/
def result (m : Method α β) : List (List UInt8) → Ending → Except Failure β
  | [], ending => .error ((ending.failure? responseHeaders).getD (.ofStatus missingMessage))
  | body :: _, ending =>
    match m.response.read body with
    | .error e => .error (.ofStatus ⟨.internal, e.message, []⟩)
    | .ok b =>
      match ending.failure? [] with
      | some f => .error f
      | none => .ok b

/-- What a reply means to a call with a single answer. -/
def Reply.result (m : Method α β) : Reply → Except Failure β
  | .messages bodies ending => Rpc.result m bodies ending
  | .statusOnly code message =>
    if code = .ok then .error (.ofStatus missingMessage)
    else .error (.ofStatus ⟨code, message, responseHeaders⟩)
  | .http status =>
    if status = 200 then .error (.ofStatus missingMessage) else .error (.ofStatus (httpStatus status))

/-- A reply is an answer exactly if its first message can be read and it ends well. -/
theorem Reply.result_eq_ok_iff {m : Method α β} {reply : Reply} {b : β} :
    reply.result m = .ok b ↔ ∃ body bodies ending, reply = .messages (body :: bodies) ending ∧
      ending.code = .ok ∧ m.response.read body = .ok b := by
  cases reply with
  | statusOnly code message =>
    rw [Reply.result]
    split <;> simp
  | http status =>
    rw [Reply.result]
    split <;> simp
  | messages bodies ending =>
    cases bodies with
    | nil => simp [Reply.result, Rpc.result]
    | cons body bodies =>
      rw [Reply.result, Rpc.result]
      constructor
      · intro h
        split at h
        · cases h
        · next b' read =>
          split at h
          · cases h
          · next good =>
            cases h
            exact ⟨body, bodies, ending, rfl, Ending.failure?_eq_none_iff.mp good, read⟩
      · rintro ⟨_, _, _, same, good, read⟩
        cases same
        rw [read, Ending.failure?_eq_none_iff.mpr good]

/-! ## Reading the reply -/

theorem runOn_awaitStatus (headers : Headers) (ending : Ending) (l : Line) :
    runOn (awaitStatus headers ending) l =
      match ending.failure? headers with
      | some f => (.error f, l)
      | none => (.ok (), l) := by
  rw [awaitStatus, checkStatus, Ending.failure?]
  by_cases good : ending.code = .ok
  · rw [if_pos good, if_pos good]
    rfl
  · rw [if_neg good, if_neg good]
    rfl

theorem runOn_readBody (m : Method α β) (body : List UInt8) (l : Line) :
    runOn (readBody m body) l =
      match m.response.read body with
      | .ok b => (.ok b, l)
      | .error e => (.error (.ofStatus ⟨.internal, e.message, []⟩), l) := by
  rw [readBody]
  cases m.response.read body <;> rfl

/-- What a call does with the messages of its reply. -/
def readReply (m : Method α β) : List (List UInt8) × Ending → OnLine β
  | ([], ending) => do
    awaitStatus responseHeaders ending
    failStatus missingMessage
  | (body :: _, ending) => do
    let response ← readBody m body
    awaitStatus [] ending
    pure response

theorem unary_eq (m : Method α β) (request : α) :
    unary m request = (do readReply m (← openReply (← send m request))) := by
  unfold unary readReply
  rfl

theorem runOn_readReply (m : Method α β) (bodies : List (List UInt8)) (ending : Ending) (l : Line) :
    runOn (readReply m (bodies, ending)) l = (result m bodies ending, l) := by
  cases bodies with
  | nil =>
    rw [readReply, runOn_bind, runOn_awaitStatus, result]
    cases ending.failure? responseHeaders <;> rfl
  | cons body bodies =>
    rw [readReply, runOn_bind, runOn_readBody, result]
    cases m.response.read body with
    | error e => rfl
    | ok b =>
      simp only [runOn_bind, runOn_awaitStatus]
      cases ending.failure? [] <;> rfl

/-- Whatever a reply is, it is read without touching the line. -/
theorem runOn_openReply (m : Method α β) (reply : Reply) (l : Line) :
    runOn (do readReply m (← openReply reply)) l = (reply.result m, l) := by
  rw [runOn_bind]
  -- a reply without messages and with a good status is read as an empty stream that ends well
  cases reply with
  | messages bodies ending =>
    show runOn (readReply m (bodies, ending)) l = _
    rw [runOn_readReply, Reply.result]
  | statusOnly code message =>
    rw [openReply, checkStatus, Reply.result]
    by_cases good : code = .ok
    · rw [if_pos good, if_pos good]
      show runOn (readReply m ([], .status .ok "")) l = _
      rw [runOn_readReply]
      rfl
    · rw [if_neg good, if_neg good]
      rfl
  | http status =>
    rw [openReply, Reply.result]
    by_cases good : status = 200
    · rw [if_pos good, if_pos good]
      show runOn (readReply m ([], .status .ok "")) l = _
      rw [runOn_readReply]
      rfl
    · rw [if_neg good, if_neg good]
      rfl

/-! ## The whole call -/

/-- **A call with a single answer** gives what its reply means, if it is sent. -/
theorem runOn_unary (m : Method α β) (request : α) (l : Line) :
    runOn (unary m request) l =
      match runOn (send m request) l with
      | (.ok reply, l') => (reply.result m, l')
      | (.error f, l') => (.error f, l') := by
  rw [unary_eq, runOn_bind]
  rcases runOn (send m request) l with ⟨f | reply, l'⟩
  · rfl
  · exact runOn_openReply m reply l'

/-- A call that a peer answers is recorded, and gives what the reply means. -/
theorem runOn_unary_of_reply {m : Method α β} (request : α) {l : Line} {path : String}
    {headers : Headers} {reply : Reply} {peer : Peer}
    (hpath : l.transport.methodPath m.service.name m.name = .ok path)
    (h : attach l.store [] = .ok headers) (hreply : l.peer.answer m.name = (some reply, peer)) :
    runOn (unary m request) l = (reply.result m, { l with
      peer := peer
      calls := l.calls ++ [⟨path, headers.values authorization, m.request.write request⟩] }) := by
  have sent : runOn (send m request) l = (.ok reply, { l with
      peer := peer
      calls := l.calls ++ [⟨path, headers.values authorization, m.request.write request⟩] }) := by
    unfold send
    simp only [runOn_bind, runOn_get, hpath, runOn_pure, h, hreply, runOn_set]
  rw [runOn_unary, sent]

theorem runOn_unary_of_refused {m : Method α β} {request : α} {l : Line} {path : String}
    {s : Status} (hpath : l.transport.methodPath m.service.name m.name = .ok path)
    (h : attach l.store [] = .error s) :
    runOn (unary m request) l = (.error (.ofStatus s), l) := by
  have refused : runOn (send m request) l = (.error (.ofStatus s), l) := by
    unfold send
    simp only [runOn_bind, runOn_get, hpath, runOn_pure, h]
    rfl
  rw [runOn_unary, refused]

/-- The two ways in which a call with a single answer can go. -/
inductive Asked (m : Method α β) (request : α) (l : Line) : Except Failure β × Line → Prop where
  | unsent (f : Failure) : Asked m request l (.error f, l)
  | answered (path : String) (headers : Headers) (reply : Reply) (peer : Peer)
      (hpath : l.transport.methodPath m.service.name m.name = .ok path)
      (h : attach l.store [] = .ok headers)
      (hreply : l.peer.answer m.name = (some reply, peer)) :
      Asked m request l (reply.result m, { l with
        peer := peer
        calls := l.calls ++ [⟨path, headers.values authorization, m.request.write request⟩] })

theorem unary_cases (m : Method α β) (request : α) (l : Line) :
    Asked m request l (runOn (unary m request) l) := by
  rw [runOn_unary]
  have sent := send_cases m request l
  generalize runOn (send m request) l = r at sent ⊢
  cases sent with
  | badPath | refused | unreachable => exact .unsent _
  | sent path headers reply peer hpath h hreply => exact .answered path headers reply peer hpath h hreply

/-- What a call asks shows in its body and nowhere else. -/
theorem unary_body (m : Method α β) (request request' : α) (l : Line) :
    runOn (unary m request') l = runOn (unary m request) l ∨
      ∃ (result : Except Failure β) (peer : Peer) (c : Call),
      runOn (unary m request) l = (result, { l with
        peer := peer
        calls := l.calls ++ [{ c with body := m.request.write request }] }) ∧
      runOn (unary m request') l = (result, { l with
        peer := peer
        calls := l.calls ++ [{ c with body := m.request.write request' }] }) := by
  -- path, credential and peer do not depend on the request, and neither does what comes back
  cases hpath : l.transport.methodPath m.service.name m.name with
  | error s =>
    have unsent (request : α) : runOn (send m request) l = (.error (.ofStatus s), l) := by
      unfold send
      simp only [runOn_bind, runOn_get, hpath]
      rfl
    rw [runOn_unary, runOn_unary, unsent, unsent]
    exact .inl rfl
  | ok path =>
    cases h : attach l.store [] with
    | error s =>
      rw [runOn_unary_of_refused hpath h, runOn_unary_of_refused hpath h]
      exact .inl rfl
    | ok headers =>
      rcases hreply : l.peer.answer m.name with ⟨_ | reply, peer⟩
      · have unsent (request : α) : runOn (send m request) l =
            (.error (.ofStatus ⟨.unavailable, "tcp connect error", []⟩), l) := by
          unfold send
          simp only [runOn_bind, runOn_get, hpath, runOn_pure, h, hreply]
          rfl
        rw [runOn_unary, runOn_unary, unsent, unsent]
        exact .inl rfl
      · exact .inr ⟨_, _, ⟨path, headers.values authorization, []⟩,
          runOn_unary_of_reply request hpath h hreply, runOn_unary_of_reply request' hpath h hreply⟩

end AdminPanel.Rpc
