import AdminPanel.Proofs.Page.Composing
import AdminPanel.Proofs.Page.Login
import AdminPanel.Proofs.Panel.Stepping
import AdminPanel.Proofs.Session.Twins

/-!
# A panel keeps its token to itself

Two panels that differ in the token of their storages (`Twins`) do the same: every step that is not there
to hand out the token gives the same answer on both (`step_twins`), and so does every run (`run_twins`).
What their peers record differs in the values of the header that carries the token, and in nothing else
(`TwinCalls`).
-/

namespace AdminPanel

namespace Rpc

open Session (Twins)
open Storage (Store)

variable {α β : Type} {q path : FilePath} {s s' : Store} {l l' : Line}

/-- Calls that differ at most in the values of the header that carries the token. -/
structure TwinCalls (c c' : Call) : Prop where
  path : c'.path = c.path
  body : c'.body = c.body
  credentials : c'.credentials.length = c.credentials.length

/-- Lines that differ at most in the token of their storages and in what it has been sent with. -/
structure TwinLines (q path : FilePath) (l l' : Line) : Prop where
  store : Twins q path l.store l'.store
  transport : l'.transport = l.transport
  peer : l'.peer = l.peer
  calls : List.Forall₂ TwinCalls l.calls l'.calls

/-- What is attached to a call is the same, or it is two tokens. -/
theorem attach_twins (h : Twins q path s s') (headers : Headers) :
    attach s' headers = attach s headers ∨ ∃ t t',
      attach s headers = .ok (headers.set authorization (bearer t)) ∧
      attach s' headers = .ok (headers.set authorization (bearer t')) := by
  unfold attach
  rcases h.token with same | ⟨t, t', left, right, ⟨-, valid⟩, -, valid'⟩
  · rw [same]
    exact .inl rfl
  · rw [left, right]
    refine .inr ⟨t, t', ?_, ?_⟩
    · simp only
      rw [if_pos valid]
    · simp only
      rw [if_pos valid']

/-- **One call** is answered alike on twin lines. -/
theorem send_twins (h : TwinLines q path l l') (m : Method α β) (request : α) :
    (runOn (send m request) l').1 = (runOn (send m request) l).1 ∧
      TwinLines q path (runOn (send m request) l).2 (runOn (send m request) l').2 := by
  unfold send
  simp only [runOn_bind, runOn_get, h.transport, h.peer]
  cases l.transport.methodPath m.service.name m.name with
  | error e => exact ⟨rfl, h⟩
  | ok methodPath =>
    simp only [runOn_pure]
    -- the same call with the credential of either storage
    have issued (headers headers' : Headers)
        (many : (headers'.values authorization).length = (headers.values authorization).length)
        (peer : Peer) :
        TwinLines q path
          { l with
            peer := peer
            calls := l.calls ++ [⟨methodPath, headers.values authorization, m.request.write request⟩] }
          { l' with
            transport := l.transport
            peer := peer
            calls := l'.calls
              ++ [⟨methodPath, headers'.values authorization, m.request.write request⟩] } :=
      ⟨h.store, rfl, rfl, List.rel_append h.calls (.cons ⟨rfl, rfl, many⟩ .nil)⟩
    rcases attach_twins h.store [] with same | ⟨t, t', left, right⟩
    · rw [same]
      cases attach l.store [] with
      | error e => exact ⟨rfl, h⟩
      | ok headers =>
        simp only [runOn_pure]
        rcases l.peer.answer m.name with ⟨_ | reply, peer⟩
        · exact ⟨rfl, h⟩
        · simp only [runOn_bind, runOn_set, runOn_pure]
          exact ⟨trivial, issued headers headers rfl peer⟩
    · rw [left, right]
      simp only [runOn_pure]
      rcases l.peer.answer m.name with ⟨_ | reply, peer⟩
      · exact ⟨rfl, h⟩
      · simp only [runOn_bind, runOn_set, runOn_pure]
        exact ⟨trivial, issued _ _ (by simp [Headers.values, Headers.set]) peer⟩

/-- **Whatever is put together from calls is answered alike on twin lines.** -/
theorem OfCalls.twins {act : OnLine α} (h : OfCalls act) (twins : TwinLines q path l l') :
    (runOn act l').1 = (runOn act l).1 ∧ TwinLines q path (runOn act l).2 (runOn act l').2 := by
  -- induction on how the action is put together
  induction h generalizing l l' with
  | pure a => exact ⟨rfl, twins⟩
  | throw f => exact ⟨rfl, twins⟩
  | send m request => exact send_twins twins m request
  | @bind α β act f h hf ih ihf =>
    obtain ⟨same, after⟩ := ih twins
    rw [runOn_bind, runOn_bind]
    rcases left : runOn act l with ⟨result, m⟩
    rcases right : runOn act l' with ⟨result', m'⟩
    rw [left, right] at same after
    obtain rfl : result' = result := same
    cases result' with
    | error e => exact ⟨rfl, after⟩
    | ok a => exact ihf a after
  | @attempt α act h ih =>
    have attempted (l : Line) : runOn (ExceptT.lift (ExceptT.run act) : OnLine (Except Failure α)) l =
        (.ok (runOn act l).1, (runOn act l).2) := rfl
    obtain ⟨same, after⟩ := ih twins
    rw [attempted, attempted, same]
    exact ⟨rfl, after⟩

/-- A storage that has been replaced on both lines. -/
theorem TwinLines.withStore (h : TwinLines q path l l') (store : Twins q path s s') :
    TwinLines q path { l with store := s } { l' with store := s' } :=
  { h with store := store }

end Rpc

namespace Page

open Rpc

variable {q path : FilePath} {l l' : Line}

theorem login_twins (h : TwinLines q path l l') (account password : String) :
    (runOn (login account password) l').1 = (runOn (login account password) l).1 ∧
      TwinLines q path (runOn (login account password) l).2 (runOn (login account password) l').2 := by
  rw [runOn_login, runOn_login]
  split
  · exact ⟨rfl, h⟩
  · split
    · exact ⟨rfl, h⟩
    · obtain ⟨same, after⟩ := (OfCalls.unary Method.auth (authRequest account password)).twins h
      rcases left : runOn (unary .auth (authRequest account password)) l with ⟨result, m⟩
      rcases right : runOn (unary .auth (authRequest account password)) l' with ⟨result', m'⟩
      rw [left, right] at same after
      obtain rfl : result' = result := same
      cases result' with
      | error f => exact ⟨rfl, after⟩
      | ok response =>
        -- the token of the answer is stored on both sides
        simp only
        rcases (after.store.start response.token).cases_eq with
          ⟨e, left, right⟩ | ⟨s, s', left, right, twins⟩
        · rw [left, right]
          exact ⟨rfl, after⟩
        · rw [left, right]
          exact ⟨rfl, after.withStore twins⟩

theorem logout_twins (h : TwinLines q path l l') :
    (runOn logout l').1 = (runOn logout l).1 ∧
      TwinLines q path (runOn logout l).2 (runOn logout l').2 := by
  rw [runOn_logout, runOn_logout]
  rcases h.store.finish.cases_eq with ⟨e, left, right⟩ | ⟨s, s', left, right, twins⟩
  · rw [left, right]
    exact ⟨rfl, h⟩
  · rw [left, right]
    exact ⟨rfl, h.withStore twins⟩

end Page

namespace Panel

open Rpc
open Page (Clock)
open Session (tokenName)
open Storage (Store)

variable {α ε : Type} {q path : FilePath} {p p' : Panel} {clock : Clock}

/-- Panels that differ at most in the token of their storages and in what it has been sent with. -/
structure Twins (q path : FilePath) (p p' : Panel) : Prop where
  line : TwinLines q path p.line p'.line
  current : p'.current = p.current
  opened : p'.opened = p.opened

/-- What two panels give and what they leave: the same answer, and twins. -/
structure TwinOutcomes (q path : FilePath) (r r' : α × Panel) : Prop where
  answer : r'.1 = r.1
  panel : Twins q path r.2 r'.2

/-- A step of the panel's own that is not there to hand out the token. -/
def Step.Discreet : Step → Prop
  | .token | .attach _ | .files _ => False
  | .getItem name => name ≠ tokenName
  | _ => True

namespace Twins

theorem of_answer (h : Twins q path p p') (a : α) : TwinOutcomes q path (a, p) (a, p') :=
  ⟨rfl, h⟩

theorem readStore (h : Twins q path p p') {r r' : Except Storage.Fault (Option String)}
    (same : r' = r) : TwinOutcomes q path (p.readStore r) (p'.readStore r') := by
  subst same
  cases r' <;> exact h.of_answer _

theorem onStore (h : Twins q path p p') {r r' : Except Storage.Fault Store}
    (alike : Alike (Session.Twins q path) r r') :
    TwinOutcomes q path (p.onStore r) (p'.onStore r') := by
  cases alike with
  | error e => exact h.of_answer _
  | ok twins => exact ⟨rfl, h.line.withStore twins, h.current, h.opened⟩

theorem onLine (h : Twins q path p p') {act : ExceptT ε (StateM Line) α} (ofValue : α → Answer)
    (ofFault : ε → Fault)
    (twins : (runOn act p'.line).1 = (runOn act p.line).1 ∧
      TwinLines q path (runOn act p.line).2 (runOn act p'.line).2) :
    TwinOutcomes q path (Panel.answer ofValue ofFault (p.onLine act))
      (Panel.answer ofValue ofFault (p'.onLine act)) := by
  obtain ⟨same, after⟩ := twins
  rw [onLine_eq, onLine_eq, same]
  cases (runOn act p.line).1 <;> exact ⟨rfl, after, h.current, h.opened⟩

theorem calls (h : Twins q path p p') {act : OnLine α} (ofCalls : OfCalls act)
    (ofValue : α → Answer) :
    TwinOutcomes q path (Panel.answer ofValue .rpc (p.onLine act))
      (Panel.answer ofValue .rpc (p'.onLine act)) :=
  h.onLine ofValue .rpc (ofCalls.twins h.line)

theorem decide (h : Twins q path p p') (target : Option Route) :
    Guard.decide p'.line.store target = Guard.decide p.line.store target := by
  rw [Guard.decide, Guard.decide, h.line.store.isOpen]

theorem navigate (h : Twins q path p p') (target : String) :
    TwinOutcomes q path (p.navigate target) (p'.navigate target) := by
  have same : Navigation.go p'.line.store target = Navigation.go p.line.store target := by
    rw [Navigation.go, Navigation.go, h.decide]
  unfold Panel.navigate
  rw [same, h.current]
  exact ⟨rfl, h.line, rfl, h.opened⟩

theorem openPage (h : Twins q path p p') (target : String) :
    TwinOutcomes q path (p.openPage target) (p'.openPage target) := by
  obtain ⟨same, after⟩ := h.navigate target
  unfold Panel.openPage
  rcases left : p.navigate target with ⟨result, m⟩
  rcases right : p'.navigate target with ⟨result', m'⟩
  rw [left, right] at same after
  obtain rfl : result' = result := same
  cases result' with
  | error e => exact ⟨rfl, after⟩
  | ok n => exact ⟨rfl, after.line, after.current, rfl⟩

theorem answer {r r' : Except ε α × Panel} (h : TwinOutcomes q path r r') (ofValue : α → Answer)
    (ofFault : ε → Fault) :
    TwinOutcomes q path (Panel.answer ofValue ofFault r) (Panel.answer ofValue ofFault r') := by
  obtain ⟨result, m⟩ := r
  obtain ⟨result', m'⟩ := r'
  obtain ⟨same, after⟩ := h
  obtain rfl : result' = result := same
  cases result' <;> exact ⟨rfl, after⟩

end Twins

/-- **A step on twins**: the same answer, and twins. -/
theorem step_twins (clock : Clock) (h : Twins q path p p') (s : Step) (discreet : s.Discreet) :
    TwinOutcomes q path (p.step clock s) (p'.step clock s) := by
  have store := h.line.store
  -- three kinds of steps are excluded: they show the token or its file to whoever takes them
  cases s with
  | token | attach | files => exact absurd discreet id
  | setToken t => exact h.onStore (store.start t)
  | clearToken => exact h.onStore store.finish
  | isAuthenticated =>
    rw [step, step, store.isOpen]
    exact h.of_answer _
  | getItem name => exact h.readStore (store.get_of_ne discreet)
  | setItem name value => exact h.onStore (store.set name value)
  | removeItem name => exact h.onStore (store.remove name)
  | guard target =>
    rw [step, step, h.decide]
    exact h.of_answer _
  | navigate target => exact Twins.answer (h.navigate target) _ _
  | openPage target => exact Twins.answer (h.openPage target) _ _
  -- calls made under the two tokens carry different credentials, which `Twins` allows, and the same bodies
  | load =>
    rw [step, step, h.opened]
    cases p.opened with
    | none => exact h.of_answer _
    | some view => exact h.calls (Page.ofCalls_view clock view) _
  | login account password => exact h.onLine _ _ (Page.login_twins h.line account password)
  | logout => exact h.onLine _ _ (Page.logout_twins h.line)
  | setStatus status reason => exact h.calls (Page.ofCalls_setStatus status reason) _
  | announce title content => exact h.calls (Page.ofCalls_announce title content) _
  | ban user duration reason => exact h.calls (Page.ofCalls_ban user duration reason) _
  | unban user => exact h.calls (Page.ofCalls_unban user) _
  | deleteAccount user => exact h.calls (Page.ofCalls_deleteAccount user) _
  | configText => exact h.calls Page.ofCalls_loadConfigText _
  | setConfig content => exact h.calls (Page.ofCalls_setConfig content) _
  | fetchLogs settings => exact h.calls (Page.ofCalls_loadLogs settings clock.now) _

/-- **A run on twins**: the same answers, and twins. -/
theorem run_twins (clock : Clock) (steps : List Step) (discreet : ∀ s ∈ steps, s.Discreet)
    (h : Twins q path p p') : TwinOutcomes q path (p.run clock steps) (p'.run clock steps) := by
  induction steps generalizing p p' with
  | nil => exact ⟨rfl, h⟩
  | cons s rest ih =>
    obtain ⟨here, others⟩ := List.forall_mem_cons.mp discreet
    obtain ⟨first, after⟩ := step_twins clock h s here
    obtain ⟨later, left⟩ := ih others after
    have run_eq (p : Panel) : p.run clock (s :: rest) =
        ((p.step clock s).1 :: ((p.step clock s).2.run clock rest).1,
          ((p.step clock s).2.run clock rest).2) := rfl
    rw [run_eq, run_eq, first, later]
    exact ⟨rfl, left⟩

/-- The password of a login shows in the body of its call and nowhere else. -/
theorem step_login_password {password password' : String} (account : String) (full : password ≠ "")
    (full' : password' ≠ "") (clock : Clock) (p : Panel) :
    let r := p.step clock (.login account password)
    p.step clock (.login account password') = r ∨
    ∃ c : Call, r.2.line.calls = p.line.calls ++ [c] ∧ c.body = Page.loginBody account password ∧
      p.step clock (.login account password') = (r.1, { r.2 with line := { r.2.line with
        calls := p.line.calls ++ [{ c with body := Page.loginBody account password' }] } }) := by
  simp only [step, onLine_eq]
  rcases Page.login_password account full full' p.line with same | ⟨c, issued, body, other⟩
  · rw [same]
    exact .inl rfl
  · rw [other]
    generalize runOn (Page.login account password) p.line = r at issued
    obtain ⟨f | user, l⟩ := r <;> exact .inr ⟨c, issued, body, rfl⟩

end Panel

end AdminPanel
