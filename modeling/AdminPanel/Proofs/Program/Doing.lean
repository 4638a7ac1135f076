import AdminPanel.Program.Run
import AdminPanel.Proofs.Navigation.Going
import AdminPanel.Proofs.Panel.Stepping

/-!
# What a command does to its line

Commands are acts on a panel with output. As with the actions of a line, the monad is opened once
(`runAct`), and what a whole act leaves on the line of its panel is put together from its parts
(`Does`). The guard comes in through `runAct_enter` alone.
-/

namespace AdminPanel.Program

open Rpc

variable {α β γ ε : Type}

/-! ## Running an act -/

/-- The result of an act, and the state after it. -/
def runAct (a : Act α) (s : State) : Except Fault α × State := (ExceptT.run a).run s

@[simp] theorem runAct_pure (x : α) (s : State) : runAct (pure x : Act α) s = (.ok x, s) := rfl

@[simp] theorem runAct_get (s : State) : runAct (get : Act State) s = (.ok s, s) := rfl

@[simp] theorem runAct_set (s' s : State) : runAct (set s' : Act PUnit) s = (.ok ⟨⟩, s') := rfl

@[simp] theorem runAct_modify (f : State → State) (s : State) :
    runAct (modify f : Act PUnit) s = (.ok ⟨⟩, f s) := rfl

/-- The second act runs in the state that the first leaves, and only if that succeeds. -/
theorem runAct_bind (a : Act α) (f : α → Act β) (s : State) :
    runAct (a >>= f) s =
      match runAct a s with
      | (.ok x, s') => runAct (f x) s'
      | (.error e, s') => (.error e, s') := by
  unfold runAct
  simp only [ExceptT.run_bind, StateT.run_bind]
  show (match (ExceptT.run a).run s with
    | (r, s') => _) = _
  rcases (ExceptT.run a).run s with ⟨_ | _, _⟩ <;> rfl

theorem runAct_onLine (ofFault : ε → Fault) (act : ExceptT ε (StateM Line) α) (s : State) :
    runAct (onLine ofFault act) s =
      ((runOn act s.panel.line).1.mapError ofFault,
        { s with panel.line := (runOn act s.panel.line).2 }) := by
  unfold onLine
  simp only [runAct_bind, runAct_get, Panel.onLine_eq, runAct_set]
  cases (runOn act s.panel.line).1 <;> rfl

/-! ## Navigations -/

/-- A navigation that is allowed logs nothing. -/
theorem navigationWarnings_of_allowed {store : Storage.Store} {path : String}
    (allowed : Route.resolve path = some .login ∨ Session.isOpen store) :
    navigationWarnings store path = [] := by
  unfold navigationWarnings Guard.unread?
  rcases allowed with leads | opened
  · rw [if_pos leads]
    rfl
  · obtain ⟨t, token⟩ := Session.isOpen_iff.mp opened
    rw [token]
    split <;> rfl

/-- The state after a navigation to a path that has ended on the login page for want of a session. -/
def State.sentAway (s : State) (path : String) : State :=
  { s with
    panel.current := some .login
    log := s.log ++ navigationWarnings s.panel.line.store path }

/-- Going to a page: without a session all but the login page end the command. -/
theorem runAct_enter (route : Route) (s : State) :
    runAct (enter route) s =
      if route = .login ∨ Session.isOpen s.panel.line.store then
        (.ok (), { s with panel.current := some route })
      else (.error (.notLoggedIn route.path), s.sentAway route.path) := by
  unfold enter
  simp only [runAct_bind, runAct_get, Panel.navigate, Navigation.go_path, runAct_set]
  by_cases allowed : route = .login ∨ Session.isOpen s.panel.line.store
  · have silent : navigationWarnings s.panel.line.store route.path = [] := by
      refine navigationWarnings_of_allowed (allowed.imp_left fun login => ?_)
      rw [Route.resolve_path, login]
    simp only [if_pos allowed, silent, List.append_nil]
    rfl
  · simp only [if_neg allowed]
    rfl

/-! ## What an act leaves -/

/-- An act that leaves a part of the state as it was. -/
def Leaves (part : State → γ) (a : Act α) : Prop :=
  ∀ s : State, part (runAct a s).2 = part s

theorem Leaves.bind {part : State → γ} {a : Act α} {f : α → Act β} (h : Leaves part a)
    (hf : ∀ x, Leaves part (f x)) : Leaves part (a >>= f) := by
  intro s
  have first := h s
  rw [runAct_bind]
  generalize runAct a s = r at first ⊢
  obtain ⟨e | x, s'⟩ := r
  · exact first
  · exact (hf x s').trans first

/-- The status only says things. -/
theorem leaves_showStatus {part : State → γ} (said : ∀ text, Leaves part (say text))
    (settings : Settings) : Leaves part (showStatus settings) := by
  refine Leaves.bind (fun _ => rfl) fun s => ?_
  cases Session.token s.panel.line.store with
  | error e => exact fun _ => rfl
  | ok token =>
    refine (said _).bind fun _ => (said _).bind fun _ => (said _).bind fun _ => ?_
    cases settings.lastAccount with
    | none => exact fun _ => rfl
    | some account => exact said _

/-- A page that is shown is loaded, and said. -/
theorem leaves_shown {part : State → γ} (called : ∀ act : OnLine Page.Data, Leaves part (call act))
    (said : ∀ text, Leaves part (say text)) (clock : Page.Clock) (route : Route) (json : Bool) :
    Leaves part (do
      let data ← call (Page.load clock route)
      if json then sayLine data.value.print else say data.text) := by
  refine (called _).bind fun data => ?_
  cases json with
  | true => exact said _
  | false => exact said _

/-- An act that does nothing to the line of the panel but make calls for its plan. -/
def Does (plan : List Endpoint) (a : Act α) : Prop :=
  ∀ s : State, s.panel.line.Extends plan (runAct a s).2.panel.line

namespace Does

variable {plan plan' : List Endpoint} {a : Act α}

theorem of_line (h : ∀ s, (runAct a s).2.panel.line = s.panel.line) : Does plan a := by
  intro s
  rw [h s]
  exact .refl plan _

theorem pure (x : α) : Does plan (Pure.pure x : Act α) := of_line fun _ => rfl

theorem throw (e : Fault) : Does plan (MonadExcept.throw e : Act α) := of_line fun _ => rfl

theorem bind {f : α → Act β} (h : Does plan a) (hf : ∀ x, Does plan' (f x)) :
    Does (plan ++ plan') (a >>= f) := by
  intro s
  have first := h s
  rw [runAct_bind]
  rcases hr : runAct a s with ⟨e | x, s'⟩
  · rw [hr] at first
    exact first.mono (List.sublist_append_left plan plan')
  · rw [hr] at first
    exact first.trans (hf x s')

/-- What makes no calls may stand in front of an act. -/
theorem quiet_bind {f : α → Act β} (h : Does [] a) (hf : ∀ x, Does plan (f x)) :
    Does plan (a >>= f) := h.bind hf

/-- What makes no calls may stand behind an act. -/
theorem bind_quiet {f : α → Act β} (h : Does plan a) (hf : ∀ x, Does [] (f x)) :
    Does plan (a >>= f) := by
  simpa using h.bind hf

end Does

theorem does_get : Does [] (get : Act State) := .of_line fun _ => rfl

theorem does_say (text : String) : Does [] (say text) := .of_line fun _ => rfl

theorem does_sayLine (text : String) : Does [] (sayLine text) := .of_line fun _ => rfl

theorem does_warn (text : String) : Does [] (warn text) := .of_line fun _ => rfl

theorem does_enter (route : Route) : Does [] (enter route) := by
  refine .of_line fun s => ?_
  rw [runAct_enter]
  split <;> rfl

/-- What an action asks for is what calling it does. -/
theorem does_call {plan : List Endpoint} {act : OnLine α} (h : Asks plan act) :
    Does plan (call act) := by
  intro s
  rw [call, runAct_onLine]
  exact h.leaves s.panel.line

/-! ## Showing a page -/

/-- What is done on a page that has been opened: a redirection is announced, and what the page
loads is shown. -/
def display (host : Host) (json : Bool) (n : Navigation) : Act Unit := do
  match n with
  | .allowed _ => pure ()
  | .redirected requested landing =>
    warn s!"{requested} requires a session, showing {landing.name} instead"
  let data ← call (Page.load host.clock n.route)
  if json then sayLine data.value.print else say data.text

/-- The state from which a page is shown after a navigation to a path. -/
def State.opens (s : State) (path : String) (n : Navigation) : State :=
  { s with
    panel := { s.panel with current := some n.route, opened := some (Page.viewOf n.route) }
    log := s.log ++ navigationWarnings s.panel.line.store path }

/-- Opening a page goes there, and shows it if it is reached. -/
theorem runAct_openPage (host : Host) (path : String) (json : Bool) (s : State) :
    runAct (openPage host path json) s =
      match Navigation.go s.panel.line.store path with
      | .error e => (.error (.navigation e), s)
      | .ok n => runAct (display host json n) (s.opens path n) := by
  unfold openPage
  simp only [runAct_bind, runAct_get, Panel.openPage, Panel.navigate]
  cases went : Navigation.go s.panel.line.store path with
  | error e =>
    -- a path is unknown only to those who have a session
    have token := (Navigation.go_eq_error_iff.mp went).2.2
    have silent : navigationWarnings s.panel.line.store path = [] :=
      navigationWarnings_of_allowed (.inr (Session.isOpen_iff_hasToken.mpr token))
    simp only [silent, List.append_nil]
    rfl
  | ok n => rfl

theorem does_display (host : Host) (json : Bool) (n : Navigation) :
    Does (Page.loadPlan n.route) (display host json n) := by
  have loads : Does (Page.loadPlan n.route) (do
      let data ← call (Page.load host.clock n.route)
      if json then sayLine data.value.print else say data.text) := by
    refine (does_call (Page.asks_load host.clock n.route)).bind_quiet fun data => ?_
    split
    · exact does_sayLine _
    · exact does_say _
  cases n with
  | allowed r => exact loads
  | redirected requested landing => exact (does_warn _).quiet_bind fun _ => loads

theorem display_fault {host : Host} {json : Bool} {n : Navigation} {s s' : State} {e : Fault}
    (h : runAct (display host json n) s = (.error e, s')) : ∃ f, e = .rpc f := by
  have tail (s : State) (h : runAct (do
      let data ← call (Page.load host.clock n.route)
      if json then sayLine data.value.print else say data.text) s = (.error e, s')) :
      ∃ f, e = .rpc f := by
    rw [runAct_bind, call, runAct_onLine] at h
    cases hr : (runOn (Page.load host.clock n.route) s.panel.line).1 with
    | error f =>
      simp only [hr, Except.mapError, Prod.mk.injEq, Except.error.injEq] at h
      exact ⟨f, h.1.symm⟩
    | ok data =>
      simp only [hr, Except.mapError] at h
      cases json <;> cases h
  cases n with
  | allowed r => exact tail s h
  | redirected requested landing => exact tail _ h

/-! ## Acts that also write the storage -/

/-- An act that records calls for its plan, each from the line that it starts with. The storage may
have changed when it is done. -/
def Issues (plan : List Endpoint) (a : Act α) : Prop :=
  ∀ s : State, ∃ issued, (runAct a s).2.panel.line.calls = s.panel.line.calls ++ issued ∧
    issued.length ≤ plan.length ∧ ∀ c ∈ issued, ∃ e ∈ plan, Made s.panel.line e c

theorem Does.issues {plan : List Endpoint} {a : Act α} (h : Does plan a) : Issues plan a :=
  fun s => (h s).exists_issued

namespace Issues

variable {plan : List Endpoint} {a : Act α}

/-- What makes no calls and leaves the storage may stand in front of an act. -/
theorem quiet_bind {f : α → Act β} (h : Does [] a) (hf : ∀ x, Issues plan (f x)) :
    Issues plan (a >>= f) := by
  intro s
  have first := h s
  obtain ⟨before, hbefore, short, -⟩ := first.exists_issued
  have none : before = [] := List.length_eq_zero_iff.mp (Nat.le_zero.mp short)
  rw [none, List.append_nil] at hbefore
  rw [runAct_bind]
  rcases hr : runAct a s with ⟨e | x, s'⟩
  · rw [hr] at hbefore
    exact ⟨[], by simpa using hbefore, by simp, by simp⟩
  · rw [hr] at first hbefore
    obtain ⟨issued, hcalls, hlength, hmade⟩ := hf x s'
    refine ⟨issued, by rw [← hbefore]; exact hcalls, hlength, fun c hc => ?_⟩
    -- the first act has left storage and transport, so a call of the second is one of the start
    obtain ⟨e, he, made⟩ := hmade c hc
    exact ⟨e, he, Line.Extends.made_congr first.store first.transport made⟩

/-- What leaves the calls alone may stand behind an act, whatever it does to the storage. -/
theorem bind_still {f : α → Act β} (h : Issues plan a)
    (hf : ∀ x s, (runAct (f x) s).2.panel.line.calls = s.panel.line.calls) :
    Issues plan (a >>= f) := by
  intro s
  obtain ⟨issued, hcalls, rest⟩ := h s
  refine ⟨issued, ?_, rest⟩
  rw [runAct_bind]
  rcases hr : runAct a s with ⟨e | x, s'⟩
  · rw [hr] at hcalls
    exact hcalls
  · rw [hr] at hcalls
    rw [← hcalls]
    exact hf x s'

end Issues

/-- What stands on a line after a login or a logout has been recorded from it. -/
theorem issues_of_stepped {step : Panel.Step} {act : ExceptT ε (StateM Line) α}
    (ofFault : ε → Fault)
    (h : ∀ l, Panel.Stepped step none l (runOn act l).2) :
    Issues (step.plan none) (onLine ofFault act) := by
  intro s
  obtain ⟨mid, hmid, hline⟩ := (h s.panel.line).calls
  rw [runAct_onLine]
  obtain ⟨issued, hcalls, rest⟩ := hmid.exists_issued
  exact ⟨issued, by rw [hline]; exact hcalls, rest⟩

end AdminPanel.Program
