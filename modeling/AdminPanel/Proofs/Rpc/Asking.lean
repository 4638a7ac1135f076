import AdminPanel.Rpc.Line
import AdminPanel.Proofs.Session.Token
import Mathlib.Data.List.Forall2

/-!
# What an action asks of the server

An action on a line makes calls one after the other. This module says what the making of one call
can do (`send_cases`), and derives from it, once and for all actions, what a whole action leaves
on its line.

## The architecture

* **`runOn`** — an action as a function: the result, and the line after it. Binding two actions
  runs the second on the line that the first leaves (`runOn_bind`).
* **`Sent`** — the four ways in which the making of a call can end. Only the last one reaches the
  peer, and only it changes the line.
* **`Credited`** — a call and the storage it was made from agree on the credential: one header
  with the stored token, or none when there is no token.
* **`Asks plan`** — an action that leaves the storage and the transport alone, sees nothing of the
  storage but the token, and records calls for some of the planned methods, in their order and
  each at most once, all of them credited. Plans are put together as the actions are
  (`Asks.bind`).
-/

namespace AdminPanel.Rpc

open Storage (Store)
open Session (tokenName)

variable {ε ε' α β : Type}

/-! ## Running an action

The monad of actions is opened here and nowhere else: later proofs rewrite with these equations. -/

@[simp] theorem runOn_pure (a : α) (l : Line) :
    runOn (pure a : ExceptT ε (StateM Line) α) l = (.ok a, l) := rfl

@[simp] theorem runOn_throw (e : ε) (l : Line) :
    runOn (throw e : ExceptT ε (StateM Line) α) l = (.error e, l) := rfl

@[simp] theorem runOn_get (l : Line) :
    runOn (get : ExceptT ε (StateM Line) Line) l = (.ok l, l) := rfl

@[simp] theorem runOn_set (l' l : Line) :
    runOn (set l' : ExceptT ε (StateM Line) PUnit) l = (.ok ⟨⟩, l') := rfl

/-- The second action runs on the line that the first leaves, and only if that succeeds. -/
theorem runOn_bind (act : ExceptT ε (StateM Line) α) (f : α → ExceptT ε (StateM Line) β)
    (l : Line) :
    runOn (act >>= f) l =
      match runOn act l with
      | (.ok a, l') => runOn (f a) l'
      | (.error e, l') => (.error e, l') := by
  unfold runOn
  rw [ExceptT.run_bind, StateT.run_bind]
  show (StateT.run _ ((ExceptT.run act).run l).2) = _
  rcases (ExceptT.run act).run l with ⟨_ | _, _⟩ <;> rfl

@[simp] theorem runOn_adapt (f : ε → ε') (act : ExceptT ε (StateM Line) α) (l : Line) :
    runOn (ExceptT.adapt f act) l = ((runOn act l).1.mapError f, (runOn act l).2) := by
  show ((ExceptT.mk (Except.mapError f <$> ExceptT.run act)).run).run l = _
  rfl

/-! ## Calls and credentials -/

/-- A call carries the credential of a storage: the one token that is stored there, if a header
can hold it, and no credential if there is no token or an empty one. -/
inductive Credited (s : Store) (c : Call) : Prop where
  | token (t : String) (stored : s.get tokenName = .ok (some t)) (nonempty : t ≠ "")
      (valid : (bearer t).toList.all isHeaderChar) (sent : c.credentials = [bearer t])
  | nothing (absent : s.get tokenName = .ok none ∨ s.get tokenName = .ok (some ""))
      (sent : c.credentials = [])

/-- A method of a service, by names. -/
structure Endpoint where
  service : Service
  name : String
  deriving Repr, DecidableEq

def Method.endpoint (m : Method α β) : Endpoint := ⟨m.service, m.name⟩

/-- A call that a line makes for an endpoint: it goes to the path of the endpoint below the prefix
of the address, with the credential of the storage. -/
structure Made (l : Line) (e : Endpoint) (c : Call) : Prop where
  path : l.transport.methodPath e.service.name e.name = .ok c.path
  credited : Credited l.store c

/-! ## The making of one call -/

/-- What is attached to a call without headers is a credential for it: one header with the token,
or nothing if there is none. -/
theorem credited_of_attach {s : Store} {h : Headers} (ok : attach s [] = .ok h) (path : String)
    (body : List UInt8) : Credited s ⟨path, h.values authorization, body⟩ := by
  unfold attach at ok
  cases read : Session.token s with
  | error e => simp [read] at ok
  | ok token =>
    rw [read] at ok
    -- no header, or one header with the token, or no call at all
    cases token with
    | none =>
      have empty : h = [] := by simpa using ok.symm
      rw [empty]
      exact .nothing (Session.token_eq_none_iff.mp read) rfl
    | some t =>
      obtain ⟨stored, nonempty⟩ := Session.token_eq_some_iff.mp read
      simp only at ok
      split at ok
      · next valid =>
        have single : h = [(authorization, bearer t)] := by
          simpa [Headers.set] using ok.symm
        rw [single]
        exact .token t stored nonempty valid (by simp [Headers.values])
      · cases ok

/-- The four ways in which the making of a call can end. -/
inductive Sent (m : Method α β) (request : α) (l : Line) : Except Failure Reply × Line → Prop where
  | badPath (s : Status) (h : l.transport.methodPath m.service.name m.name = .error s) :
      Sent m request l (.error (.ofStatus s), l)
  | refused (path : String) (s : Status)
      (hpath : l.transport.methodPath m.service.name m.name = .ok path)
      (h : attach l.store [] = .error s) : Sent m request l (.error (.ofStatus s), l)
  | unreachable (headers : Headers) (h : attach l.store [] = .ok headers) (f : Failure) :
      Sent m request l (.error f, l)
  | sent (path : String) (headers : Headers) (reply : Reply) (peer : Peer)
      (hpath : l.transport.methodPath m.service.name m.name = .ok path)
      (h : attach l.store [] = .ok headers)
      (hreply : l.peer.answer m.name = (some reply, peer)) :
      Sent m request l (.ok reply, { l with
        peer := peer
        calls := l.calls ++ [⟨path, headers.values authorization, m.request.write request⟩] })

/-- Everything that the making of a call can do. -/
theorem send_cases (m : Method α β) (request : α) (l : Line) :
    Sent m request l (runOn (send m request) l) := by
  unfold send
  simp only [runOn_bind, runOn_get]
  cases hpath : l.transport.methodPath m.service.name m.name with
  | error s => exact .badPath s hpath
  | ok path =>
    simp only [runOn_pure]
    cases h : attach l.store [] with
    | error s => exact .refused path s hpath h
    | ok headers =>
      simp only [runOn_pure]
      rcases hreply : l.peer.answer m.name with ⟨_ | reply, peer⟩
      · exact .unreachable headers h _
      · simp only [runOn_bind, runOn_set, runOn_pure]
        exact .sent path headers reply peer hpath h hreply

/-! ## What an action leaves on its line -/

/-- A line that an action with a plan can leave: storage and transport are the same, and calls for
some of the planned endpoints have been recorded behind the earlier ones, in their order. -/
structure Line.Extends (plan : List Endpoint) (l l' : Line) : Prop where
  store : l'.store = l.store
  transport : l'.transport = l.transport
  calls : ∃ issued asked, l'.calls = l.calls ++ issued ∧ asked.Sublist plan ∧
    List.Forall₂ (Made l) asked issued

namespace Line.Extends

variable {plan plan' : List Endpoint} {l l' l'' : Line}

theorem refl (plan : List Endpoint) (l : Line) : l.Extends plan l :=
  ⟨rfl, rfl, [], [], by simp, List.nil_sublist plan, .nil⟩

/-- What two lines agree on decides what their calls look like. -/
theorem made_congr (store : l'.store = l.store) (transport : l'.transport = l.transport)
    {e : Endpoint} {c : Call} (h : Made l' e c) : Made l e c :=
  ⟨by rw [← transport]; exact h.path, by rw [← store]; exact h.credited⟩

theorem trans (h : l.Extends plan l') (h' : l'.Extends plan' l'') :
    l.Extends (plan ++ plan') l'' := by
  obtain ⟨issued, asked, hcalls, hsub, hmade⟩ := h.calls
  obtain ⟨issued', asked', hcalls', hsub', hmade'⟩ := h'.calls
  refine ⟨h'.store.trans h.store, h'.transport.trans h.transport, issued ++ issued',
    asked ++ asked', ?_, hsub.append hsub', ?_⟩
  · rw [hcalls', hcalls, List.append_assoc]
  -- what the second action calls is as the first line makes it, too
  · have earlier : List.Forall₂ (Made l) asked' issued' :=
      hmade'.imp fun _ _ => made_congr h.store h.transport
    exact List.rel_append hmade earlier

theorem mono (hplan : plan.Sublist plan') (h : l.Extends plan l') : l.Extends plan' l' := by
  obtain ⟨issued, asked, hcalls, hsub, hmade⟩ := h.calls
  exact ⟨h.store, h.transport, issued, asked, hcalls, hsub.trans hplan, hmade⟩

/-- Every recorded call was planned, and is as the line makes it. -/
theorem exists_issued (h : l.Extends plan l') :
    ∃ issued, l'.calls = l.calls ++ issued ∧ issued.length ≤ plan.length ∧
      ∀ c ∈ issued, ∃ e ∈ plan, Made l e c := by
  obtain ⟨issued, asked, hcalls, hsub, hmade⟩ := h.calls
  have same : asked.length = issued.length := hmade.length_eq
  refine ⟨issued, hcalls, same ▸ hsub.length_le, ?_⟩
  have members : ∀ c ∈ issued, ∃ e ∈ asked, Made l e c := by
    clear hcalls hsub same
    -- induction on the calls, each beside what was asked for
    induction hmade with
    | nil => simp
    | cons made _ ih =>
      intro c hc
      rcases List.mem_cons.mp hc with rfl | hc
      · exact ⟨_, List.mem_cons_self, made⟩
      · obtain ⟨e, he, made⟩ := ih c hc
        exact ⟨e, List.mem_cons_of_mem _ he, made⟩
  intro c hc
  obtain ⟨e, he, made⟩ := members c hc
  exact ⟨e, hsub.subset he, made⟩

end Line.Extends

/-- Of a plan with one call, on a line without any, at most that call is recorded. -/
theorem eq_nil_or_singleton {l : Line} {calls : List Call} {e : Endpoint} (fresh : l.calls = [])
    (h : ∃ issued, calls = l.calls ++ issued ∧ issued.length ≤ [e].length ∧
      ∀ c ∈ issued, ∃ e' ∈ [e], Made l e' c) :
    calls = [] ∨ ∃ c, calls = [c] ∧ Made l e c := by
  obtain ⟨issued, hcalls, short, hmade⟩ := h
  rw [fresh, List.nil_append] at hcalls
  subst hcalls
  match calls, short, hmade with
  | [], _, _ => exact .inl rfl
  | [c], _, hmade =>
    obtain ⟨e', he, made⟩ := hmade c List.mem_cons_self
    rw [List.mem_singleton.mp he] at made
    exact .inr ⟨c, rfl, made⟩

/-- An action that does nothing to a line but make calls for its plan, and that sees nothing of the
storage but the token: over another storage with the same token it does the same. -/
structure Asks (plan : List Endpoint) (act : ExceptT ε (StateM Line) α) : Prop where
  leaves : ∀ l : Line, l.Extends plan (runOn act l).2
  sees : ∀ (l : Line) (s : Store), Session.token s = Session.token l.store →
    runOn act { l with store := s } = ((runOn act l).1, { (runOn act l).2 with store := s })

namespace Asks

variable {plan plan' : List Endpoint} {act : ExceptT ε (StateM Line) α}

theorem pure (a : α) : Asks plan (Pure.pure a : ExceptT ε (StateM Line) α) :=
  ⟨fun l => .refl plan l, fun _ _ _ => rfl⟩

theorem throw (e : ε) : Asks plan (MonadExcept.throw e : ExceptT ε (StateM Line) α) :=
  ⟨fun l => .refl plan l, fun _ _ _ => rfl⟩

/-- Actions that are bound ask for the plan of the first and then for that of the second. -/
theorem bind {f : α → ExceptT ε (StateM Line) β} (h : Asks plan act)
    (hf : ∀ a, Asks plan' (f a)) : Asks (plan ++ plan') (act >>= f) := by
  constructor
  · intro l
    have first := h.leaves l
    rw [runOn_bind]
    rcases hr : runOn act l with ⟨e | a, l'⟩
    · rw [hr] at first
      exact first.mono (List.sublist_append_left plan plan')
    · rw [hr] at first
      exact first.trans ((hf a).leaves l')
  · intro l s token
    have first := h.leaves l
    rw [runOn_bind, runOn_bind, h.sees l s token]
    rcases hr : runOn act l with ⟨e | a, l'⟩
    · rfl
    · rw [hr] at first
      -- the first action has left the storage as it was, so the second sees the same token
      exact (hf a).sees l' s (by rw [token, first.store])

/-- What makes no calls may stand behind an action. -/
theorem bind_quiet {f : α → ExceptT ε (StateM Line) β} (h : Asks plan act)
    (hf : ∀ a, Asks [] (f a)) : Asks plan (act >>= f) := by
  simpa using h.bind hf

end Asks

/-! ## The actions of a line -/

theorem attach_congr {s s' : Store} (token : Session.token s = Session.token s') (h : Headers) :
    attach s h = attach s' h := by
  rw [attach, token, attach]

/-- Everything that the making of a call can do, it also does over another storage with the same
token. -/
theorem send_sees (m : Method α β) (request : α) (l : Line) (s : Store)
    (token : Session.token s = Session.token l.store) :
    runOn (send m request) { l with store := s } =
      ((runOn (send m request) l).1, { (runOn (send m request) l).2 with store := s }) := by
  unfold send
  simp only [runOn_bind, runOn_get, attach_congr token]
  cases l.transport.methodPath m.service.name m.name with
  | error e => rfl
  | ok path =>
    simp only [runOn_pure]
    cases attach l.store [] with
    | error e => rfl
    | ok headers =>
      simp only [runOn_pure]
      rcases l.peer.answer m.name with ⟨_ | reply, peer⟩ <;> rfl

theorem asks_send (m : Method α β) (request : α) : Asks [m.endpoint] (send m request) := by
  refine ⟨fun l => ?_, send_sees m request⟩
  generalize hr : runOn (send m request) l = r
  have cases_of : Sent m request l r := hr ▸ send_cases m request l
  cases cases_of with
  | badPath => exact .refl _ l
  | refused => exact .refl _ l
  | unreachable => exact .refl _ l
  | sent path headers reply peer hpath h hreply =>
    exact ⟨rfl, rfl, _, [m.endpoint], rfl, List.Sublist.refl _,
      .cons ⟨hpath, credited_of_attach h _ _⟩ .nil⟩

theorem asks_failStatus (s : Status) : Asks [] (failStatus s : OnLine α) :=
  Asks.throw _

theorem asks_checkStatus (s : Status) : Asks [] (checkStatus s) := by
  unfold checkStatus
  split
  · exact Asks.pure _
  · exact asks_failStatus s

theorem asks_awaitStatus (headers : Headers) (ending : Ending) : Asks [] (awaitStatus headers ending) :=
  asks_checkStatus _

theorem asks_close (ending : Ending) : Asks [] (close ending) := by
  cases ending with
  | status code message => exact asks_checkStatus _
  | late code message => exact Asks.pure _

theorem asks_readBody (m : Method α β) (body : List UInt8) : Asks [] (readBody m body) := by
  unfold readBody
  split
  · exact Asks.pure _
  · exact asks_failStatus _

theorem asks_openReply (reply : Reply) : Asks [] (openReply reply) := by
  cases reply with
  | messages bodies ending => exact Asks.pure _
  | statusOnly code message => exact (asks_checkStatus _).bind_quiet fun _ => Asks.pure _
  | http status =>
    rw [openReply]
    split
    · exact Asks.pure _
    · exact asks_failStatus _

/-- A stream is asked for by one call. -/
theorem asks_streaming (m : Method α β) (request : α) : Asks [m.endpoint] (streaming m request) :=
  (asks_send m request).bind_quiet asks_openReply

/-- A single answer is asked for by one call; all that follows only reads the reply. -/
theorem asks_unary (m : Method α β) (request : α) : Asks [m.endpoint] (unary m request) := by
  refine (asks_send m request).bind_quiet fun reply => ?_
  refine (asks_openReply reply).bind_quiet fun opened => ?_
  obtain ⟨_ | ⟨body, bodies⟩, ending⟩ := opened
  · exact (asks_awaitStatus _ ending).bind_quiet fun _ => asks_failStatus _
  · exact (asks_readBody m body).bind_quiet fun response =>
      (asks_awaitStatus _ ending).bind_quiet fun _ => Asks.pure response

end AdminPanel.Rpc
