import AdminPanel.Panel
import AdminPanel.Proofs.Page.Asking

/-!
# What a step of the panel can do

Every step first makes calls and then, at most, replaces the storage (`step_cases`). The calls are
those planned for the step (`Step.plan`), and the storage changes as the step says (`Step.Stores`);
no other step of the panel ever touches it. All that is proved of whole runs starts from here.
-/

namespace AdminPanel.Panel

open Rpc
open Storage (Store)

/-- What a step asks for, with the view that was opened last. -/
def Step.plan (opened : Option Page.View) : Step → List Endpoint
  | .load => opened.elim [] fun view => Page.loadPlan view.route
  | .login .. => [Method.auth.endpoint]
  | .setStatus .. => [Method.setServerStatus.endpoint]
  | .announce .. => Page.announcePlan
  | .ban .. => [Method.banUser.endpoint]
  | .unban _ => [Method.unbanUser.endpoint]
  | .deleteAccount _ => [Method.deleteAccount.endpoint]
  | .configText => [Method.getConfig.endpoint]
  | .setConfig _ => [Method.setConfig.endpoint]
  | .fetchLogs _ => [Method.fetchMsgs.endpoint]
  | _ => []

/-- How a step can change the storage. -/
inductive Step.Stores : Step → Store → Store → Prop
  | same (s : Step) (store : Store) : Stores s store store
  | setToken (t : String) {store store' : Store} (h : Session.start store t = .ok store') :
      Stores (.setToken t) store store'
  | clearToken {store store' : Store} (h : Session.finish store = .ok store') :
      Stores .clearToken store store'
  | setItem (name value : String) {store store' : Store} (h : store.set name value = .ok store') :
      Stores (.setItem name value) store store'
  | removeItem (name : String) {store store' : Store} (h : store.remove name = .ok store') :
      Stores (.removeItem name) store store'
  | files (change : FileTree → Except FileFault FileTree) (store : Store) {files : FileTree}
      (h : change store.files = .ok files) :
      Stores (.files change) store { store with files := files }
  | login (account password token : String) {store store' : Store}
      (h : Session.start store token = .ok store') : Stores (.login account password) store store'
  | logout {store store' : Store} (h : Session.finish store = .ok store') :
      Stores .logout store store'

/-- A step from one line to another: the planned calls, and then a change of the storage. -/
structure Stepped (s : Step) (opened : Option Page.View) (l l' : Line) : Prop where
  stores : s.Stores l.store l'.store
  calls : ∃ mid, l.Extends (s.plan opened) mid ∧ l' = { mid with store := l'.store }

namespace Stepped

variable {s : Step} {opened : Option Page.View} {l l' : Line}

theorem of_extends (h : l.Extends (s.plan opened) l') : Stepped s opened l l' := by
  refine ⟨?_, l', h, rfl⟩
  rw [h.store]
  exact .same s l.store

theorem of_store {store : Store} (h : s.Stores l.store store) :
    Stepped s opened l { l with store := store } :=
  ⟨h, l, .refl _ l, rfl⟩

theorem refl (s : Step) (opened : Option Page.View) (l : Line) : Stepped s opened l l :=
  of_extends (.refl _ l)

end Stepped

/-! ## The shapes of steps -/

variable {α ε : Type} {p : Panel} {s : Step}

theorem answer_snd (ofValue : α → Answer) (ofFault : ε → Fault) (r : Except ε α × Panel) :
    (answer ofValue ofFault r).2 = r.2 := by
  obtain ⟨_ | _, _⟩ := r <;> rfl

/-- What is done on the line of the panel is done on the line, and nowhere else. -/
theorem onLine_eq (p : Panel) (act : ExceptT ε (StateM Line) α) :
    p.onLine act = ((runOn act p.line).1, { p with line := (runOn act p.line).2 }) := rfl

/-- A step that is an action with the plan of the step. -/
theorem stepped_onLine {act : ExceptT ε (StateM Line) α} (ofValue : α → Answer)
    (ofFault : ε → Fault) (h : Asks (s.plan p.opened) act) :
    Stepped s p.opened p.line (answer ofValue ofFault (p.onLine act)).2.line := by
  rw [answer_snd, onLine_eq]
  exact .of_extends (h.leaves p.line)

theorem stepped_onStore {r : Except Storage.Fault Store}
    (h : ∀ store, r = .ok store → s.Stores p.line.store store) :
    Stepped s p.opened p.line (p.onStore r).2.line := by
  cases r with
  | error e => exact .refl s p.opened p.line
  | ok store => exact .of_store (h store rfl)

theorem stepped_readStore (r : Except Storage.Fault (Option String)) :
    Stepped s p.opened p.line (p.readStore r).2.line := by
  cases r <;> exact .refl s p.opened p.line

theorem openPage_line (p : Panel) (path : String) : (p.openPage path).2.line = p.line := by
  unfold openPage navigate
  cases Navigation.go p.line.store path <;> rfl

theorem step_logout (clock : Page.Clock) (p : Panel) :
    p.step clock .logout = p.onStore (Session.finish p.line.store) := by
  rw [step, onLine_eq, Page.runOn_logout]
  cases Session.finish p.line.store <;> rfl

/-- A login makes its call first; if the answer is good, the token of the answer is stored on the
line that the call has left. -/
theorem stepped_login (account password : String) (opened : Option Page.View) (l : Line) :
    Stepped (.login account password) opened l (runOn (Page.login account password) l).2 := by
  have asked := (asks_unary Method.auth (Page.authRequest account password)).leaves l
  rw [Page.runOn_login]
  split
  · exact .refl _ _ _
  · split
    · exact .refl _ _ _
    · rcases hr : runOn (unary .auth (Page.authRequest account password)) l with ⟨f | response, l'⟩
      · rw [hr] at asked
        exact .of_extends asked
      · rw [hr] at asked
        simp only
        -- the call has left the storage alone, so the token is stored where the step began
        cases hstart : Session.start l'.store response.token with
        | error e => exact .of_extends asked
        | ok store =>
          rw [asked.store] at hstart
          exact ⟨.login account password response.token hstart, l', asked, rfl⟩

theorem stepped_logout (opened : Option Page.View) (l : Line) :
    Stepped .logout opened l (runOn Page.logout l).2 := by
  rw [Page.runOn_logout]
  cases h : Session.finish l.store with
  | error e => exact .refl _ _ _
  | ok store => exact .of_store (.logout h)

/-- **Everything that a step can do to the line**, by what the step is. -/
theorem step_cases (clock : Page.Clock) (p : Panel) (s : Step) :
    Stepped s p.opened p.line (p.step clock s).2.line := by
  -- one case for each constructor: what it reads, what it writes, what it asks of the peer
  cases s with
  | token => exact stepped_readStore _
  | setToken t =>
    rw [step]
    exact stepped_onStore fun _ h => .setToken t h
  | clearToken =>
    rw [step]
    exact stepped_onStore fun _ h => .clearToken h
  | isAuthenticated => exact .refl _ _ _
  | getItem name => exact stepped_readStore _
  | setItem name value =>
    rw [step]
    exact stepped_onStore fun _ h => .setItem name value h
  | removeItem name =>
    rw [step]
    exact stepped_onStore fun _ h => .removeItem name h
  | files change =>
    rw [step]
    cases h : change p.line.store.files with
    | error e => exact .refl _ _ _
    | ok files => exact .of_store (.files change p.line.store h)
  | guard target => exact .refl _ _ _
  | navigate path =>
    rw [step, answer_snd]
    exact .refl _ _ _
  | openPage path =>
    rw [step, answer_snd, openPage_line]
    exact .refl _ _ _
  | load =>
    rw [step]
    cases opened : p.opened with
    | none => exact .refl _ _ _
    | some view =>
      have loads := stepped_onLine (p := p) (s := .load) Answer.page Fault.rpc
        (by rw [opened]; exact Page.asks_view clock view)
      rw [opened] at loads
      exact loads
  | attach headers =>
    rw [step]
    cases Rpc.Outgoing.attach p.line.store ⟨headers, ()⟩ <;> exact .refl _ _ _
  | login account password =>
    rw [step, answer_snd, onLine_eq]
    exact stepped_login account password p.opened p.line
  | logout =>
    rw [step_logout]
    exact stepped_onStore fun _ h => .logout h
  | setStatus status reason =>
    rw [step]
    exact stepped_onLine _ _ (Page.asks_setStatus status reason)
  | announce title content =>
    rw [step]
    exact stepped_onLine _ _ (Page.asks_announce title content)
  | ban user duration reason =>
    rw [step]
    exact stepped_onLine _ _ (Page.asks_ban user duration reason)
  | unban user =>
    rw [step]
    exact stepped_onLine _ _ (Page.asks_unban user)
  | deleteAccount user =>
    rw [step]
    exact stepped_onLine _ _ (Page.asks_deleteAccount user)
  | configText =>
    rw [step]
    exact stepped_onLine _ _ Page.asks_loadConfigText
  | setConfig content =>
    rw [step]
    exact stepped_onLine _ _ (Page.asks_setConfig content)
  | fetchLogs settings =>
    rw [step]
    exact stepped_onLine _ _ (Page.asks_loadLogs settings clock.now)

end AdminPanel.Panel
