import Mathlib.Data.List.Induction
import AdminPanel.Proofs.Navigation.Going
import AdminPanel.Proofs.Panel.Stepping

/-!
# Navigations in a run

A navigation is decided by its path and by whether a token can be read at that moment, and by nothing
that happened before. What it leaves behind is the current page, which nothing else changes; so a page
that needs a session is the current one only because a navigation once read a token.

* **`Happening`** — what happens to a panel: a step, or a change of its storage from outside.
* **`navigation_of_run`** — how a navigation ends after any run, and where the current page comes from.
-/

namespace AdminPanel.Panel

open Rpc
open Storage (Store)
open Page (Clock)

/-- A step of the panel at some time, or anything that becomes of its storage without it: a change by
others, or a failure that begins or ends. -/
inductive Happening where
  | step (clock : Clock) (s : Step)
  | storage (store : Store)

/-- The panel after something has happened. -/
def after (p : Panel) : Happening → Panel
  | .step clock s => (p.step clock s).2
  | .storage store => { p with line := { p.line with store := store } }

/-- The panel after several things have happened. -/
def afterAll (p : Panel) (events : List Happening) : Panel :=
  events.foldl after p

theorem afterAll_concat (p : Panel) (events : List Happening) (e : Happening) :
    p.afterAll (events ++ [e]) = (p.afterAll events).after e := by
  rw [afterAll, List.foldl_append]
  rfl

/-- The path to which a step goes. -/
def Step.goesTo? : Step → Option String
  | .navigate path | .openPage path => some path
  | _ => none

/-! ## The current page -/

variable {p : Panel} {s : Step} {clock : Clock}

theorem navigate_eq (p : Panel) (path : String) :
    p.navigate path = (Navigation.go p.line.store path,
      { p with current := Navigation.currentAfter p.current (Navigation.go p.line.store path) }) :=
  rfl

section

variable {path : String} {n : Navigation} {f : Navigation.Fault}

theorem navigate_of_ok (h : Navigation.go p.line.store path = .ok n) :
    p.navigate path = (.ok n, { p with current := some n.route }) := by
  rw [navigate_eq, h]
  rfl

theorem navigate_of_error (h : Navigation.go p.line.store path = .error f) :
    p.navigate path = (.error f, p) := by
  rw [navigate_eq, h]
  rfl

theorem openPage_of_ok (h : Navigation.go p.line.store path = .ok n) :
    p.openPage path =
      (.ok n, { p with current := some n.route, opened := some (Page.viewOf n.route) }) := by
  rw [openPage, navigate_of_ok h]

theorem openPage_of_error (h : Navigation.go p.line.store path = .error f) :
    p.openPage path = (.error f, p) := by
  rw [openPage, navigate_of_error h]

end

/-- What a step that goes somewhere answers, and the current page that it leaves. -/
theorem step_of_goesTo (clock : Clock) (p : Panel) {path : String} (goes : s.goesTo? = some path) :
    (p.step clock s).1 =
        (answer .navigation .navigation (Navigation.go p.line.store path, p)).1 ∧
      (p.step clock s).2.current =
        Navigation.currentAfter p.current (Navigation.go p.line.store path) := by
  cases s with
  | navigate path' =>
    cases goes
    rw [step]
    cases ended : Navigation.go p.line.store path with
    | ok n =>
      rw [navigate_of_ok ended]
      exact ⟨rfl, rfl⟩
    | error f =>
      rw [navigate_of_error ended]
      exact ⟨rfl, rfl⟩
  | openPage path' =>
    cases goes
    rw [step]
    cases ended : Navigation.go p.line.store path with
    | ok n =>
      rw [openPage_of_ok ended]
      exact ⟨rfl, rfl⟩
    | error f =>
      rw [openPage_of_error ended]
      exact ⟨rfl, rfl⟩
  | _ => cases goes

theorem readStore_snd (p : Panel) (r : Except Storage.Fault (Option String)) :
    (p.readStore r).2 = p := by
  cases r <;> rfl

theorem onStore_current (p : Panel) (r : Except Storage.Fault Store) :
    (p.onStore r).2.current = p.current := by
  cases r <;> rfl

/-- Only a navigation changes the current page. -/
theorem current_of_stays (stays : s.goesTo? = none) : (p.step clock s).2.current = p.current := by
  cases s with
  | navigate | openPage => cases stays
  | token | getItem => rw [step, readStore_snd]
  | setToken | clearToken | setItem | removeItem => rw [step, onStore_current]
  | isAuthenticated | guard => rfl
  | files change =>
    rw [step]
    split <;> rfl
  | load =>
    rw [step]
    split
    · rfl
    · rw [answer_snd, onLine_eq]
  | attach headers =>
    rw [step]
    split <;> rfl
  | login | logout | setStatus | announce | ban | unban | deleteAccount | configText | setConfig
  | fetchLogs => rw [step, answer_snd, onLine_eq]

/-- **The current page after a step** is the one that the step went to, if it went anywhere. -/
theorem current_step (clock : Clock) (p : Panel) (s : Step) :
    (p.step clock s).2.current = Navigation.currentVia p.line.store p.current s.goesTo? := by
  cases goes : s.goesTo? with
  | none => exact current_of_stays goes
  | some path => exact (step_of_goesTo clock p goes).2

/-! ## Where the current page comes from -/

/-- A page has become the current one: after the events `before`, a step went there by a path that
leads there, over a storage out of which a token could be read; and it has been the current page at
every moment since then. -/
def CurrentSince (p : Panel) (before later : List Happening) (clock : Clock) (s : Step) (r : Route) :
    Prop :=
  (∃ asked, s.goesTo? = some asked ∧ Route.resolve asked = some r) ∧
  Session.HasToken (p.afterAll before).line.store ∧
  ((p.afterAll before).step clock s).1 = .ok (.navigation (.allowed r)) ∧
  ∀ passed, passed <+: later →
    (p.afterAll (before ++ .step clock s :: passed)).current = some r

theorem CurrentSince.concat {before later : List Happening} {r : Route}
    (since : p.CurrentSince before later clock s r) {e : Happening}
    (still : (p.afterAll (before ++ .step clock s :: (later ++ [e]))).current = some r) :
    p.CurrentSince before (later ++ [e]) clock s r := by
  obtain ⟨asked, token, answered, current⟩ := since
  refine ⟨asked, token, answered, fun passed within => ?_⟩
  rcases List.prefix_concat_iff.mp within with rfl | within
  · exact still
  · exact current passed within

/-- A page that needs a session has become the current one by a navigation that read a token. The
induction goes along the run from its end: whatever happened last either navigated there itself, or
left the current page as it was. -/
theorem exists_currentSince (fresh : p.current = none) {r : Route} (guarded : r ≠ .login)
    (events : List Happening) (current : (p.afterAll events).current = some r) :
    ∃ before clock s later, events = before ++ .step clock s :: later ∧
      p.CurrentSince before later clock s r := by
  -- from the end: the last happening either keeps the route, or is the step that has led to it
  induction events using List.reverseRecOn with
  | nil => exact absurd (fresh.symm.trans current) nofun
  | append_singleton events e ih =>
    have kept (same : (p.afterAll events).current = some r) :
        ∃ before clock s later, events ++ [e] = before ++ .step clock s :: later ∧
          p.CurrentSince before later clock s r := by
      obtain ⟨before, clock, s, later, rfl, since⟩ := ih same
      refine ⟨before, clock, s, later ++ [e], by simp, since.concat ?_⟩
      simpa using current
    have last := current
    rw [afterAll_concat] at last
    cases e with
    | storage store => exact kept last
    | step clock s =>
      rw [after] at last
      cases goes : s.goesTo? with
      | none => exact kept ((current_of_stays goes).symm.trans last)
      | some asked =>
        obtain ⟨answered, moved⟩ := step_of_goesTo clock (p.afterAll events) goes
        rw [moved] at last
        have ended := Navigation.ends_go (p.afterAll events).line.store asked
        generalize Navigation.go (p.afterAll events).line.store asked = result at ended last answered
        cases ended with
        | allowed r' leads mayShow =>
          -- the step that has led here, with nothing behind it
          obtain rfl : r' = r := Option.some.inj last
          refine ⟨events, clock, s, [], rfl, ⟨asked, goes, leads⟩, mayShow.resolve_left guarded,
            answered, fun passed within => ?_⟩
          rw [List.prefix_nil.mp within]
          exact current
        | redirected => exact absurd (Option.some.inj last).symm guarded
        | unknown => exact kept last

/-! ## The theorem -/

/-- **Navigations in a run.** Let anything have happened to a panel. A navigation then shows a page
exactly if the path leads to it, and it is the login page or a token can be read; it shows the login
page instead exactly if the path does not lead there and none can be read; it reports the path as
unknown exactly if it leads nowhere and a token can be read. The page reached becomes the current one,
and if it is to be opened the view that is built is its own; a path that is unknown changes nothing, and
nothing else of the panel ever changes. As long as the storage is the same, the same path ends the same way. And if the
panel began with no page, a current page that needs a session was set by a navigation that read a
token, and has been the current page since. -/
theorem navigation_of_run (p : Panel) (events : List Happening) {q : Panel}
    (reached : p.afterAll events = q) (path : String) :
    (∀ r, (q.navigate path).1 = .ok (.allowed r) ↔
      Route.resolve path = some r ∧ (r = .login ∨ Session.HasToken q.line.store)) ∧
    (∀ requested landing, (q.navigate path).1 = .ok (.redirected requested landing) ↔
      (requested = path ∧ landing = .login) ∧ Route.resolve path ≠ some .login ∧
        (q.line.store.get Session.tokenName = .ok none ∨
          q.line.store.get Session.tokenName = .ok (some "") ∨
          ∃ e, q.line.store.get Session.tokenName = .error e)) ∧
    (∀ f, (q.navigate path).1 = .error f ↔
      f = ⟨path⟩ ∧ Route.resolve path = none ∧ Session.HasToken q.line.store) ∧
    (∀ n, (q.navigate path).1 = .ok n →
      q.navigate path = (.ok n, { q with current := some n.route }) ∧
      q.openPage path =
        (.ok n, { q with current := some n.route, opened := some (Page.viewOf n.route) }) ∧
      (Page.viewOf n.route).route = n.route) ∧
    (∀ f, (q.navigate path).1 = .error f →
      q.navigate path = (.error f, q) ∧ q.openPage path = (.error f, q)) ∧
    (∀ later, (q.afterAll later).line.store = q.line.store →
      ((q.afterAll later).navigate path).1 = (q.navigate path).1) ∧
    (p.current = none → ∀ r, r ≠ .login → q.current = some r →
      ∃ before clock s later, events = before ++ .step clock s :: later ∧
        p.CurrentSince before later clock s r) := by
  subst reached
  refine ⟨fun r => Navigation.go_eq_allowed_iff, fun requested landing => ?_,
    fun f => Navigation.go_eq_error_iff,
    fun n ended => ⟨navigate_of_ok ended, openPage_of_ok ended, Page.viewOf_route n.route⟩,
    fun f ended => ⟨navigate_of_error ended, openPage_of_error ended⟩, fun later same => ?_,
    fun fresh r guarded current => exists_currentSince fresh guarded events current⟩
  · rw [← Session.not_hasToken_iff]
    exact Navigation.go_eq_redirected_iff
  · rw [navigate_eq, navigate_eq, same]

/-- Sent away once, let in with a token, and left there by a path that leads nowhere. -/
theorem navigation_of_run_let_in :
    let p : Panel := ⟨⟨{}, ⟨"http://h", ⟨"http", "h", ""⟩⟩, .unreachable, []⟩, none, none⟩
    let events : List Happening := [.step default (.navigate "/users"),
      .step default (.setToken "t"), .step default (.openPage " users/?page=2")]
    (∃ before clock s later, events = before ++ .step clock s :: later ∧
      p.CurrentSince before later clock s .users) ∧
    ((p.afterAll events).navigate "/nowhere").1 = .error ⟨"/nowhere"⟩ ∧
    (p.afterAll events).openPage "/nowhere" = (.error ⟨"/nowhere"⟩, p.afterAll events) := by
  intro p events
  have token : Session.HasToken (p.afterAll events).line.store := ⟨"t", by decide +kernel⟩
  obtain ⟨-, -, unknown, -, still, -, since⟩ := navigation_of_run p events rfl "/nowhere"
  have fails := (unknown ⟨"/nowhere"⟩).mpr ⟨rfl, by decide +kernel, token⟩
  exact ⟨since rfl .users (by decide) (by decide +kernel), fails, (still _ fails).2⟩

end AdminPanel.Panel
