import AdminPanel.Navigation.Router
import AdminPanel.Proofs.Session.Token

/-!
# Where a navigation ends

Without a session every path ends at the login page, and no path is reported as unknown. With one,
the path of a page leads to the page, and a path that leads nowhere is a fault.
-/

namespace AdminPanel

open Storage (Store)

variable {s : Store}

/-! ## The guard -/

/-- The guard lets a page through exactly if it is the login page or there is a session. -/
theorem Guard.decide_eq (s : Store) (target : Option Route) :
    Guard.decide s target =
      if target = some .login ∨ Session.isOpen s then .allowed else .redirected .login := rfl

theorem Guard.decide_of_open (h : Session.isOpen s = true) (target : Option Route) :
    Guard.decide s target = .allowed := by
  rw [Guard.decide_eq, if_pos (.inr h)]

theorem Guard.decide_eq_allowed_iff {target : Option Route} :
    Guard.decide s target = .allowed ↔ target = some .login ∨ Session.HasToken s := by
  rw [Guard.decide_eq, ← Session.isOpen_iff_hasToken]
  split <;> simp_all

/-! ## Navigations -/

namespace Navigation

theorem go_eq (s : Store) (path : String) :
    go s path = match Guard.decide s (Route.resolve path), Route.resolve path with
      | .redirected landing, _ => .ok (.redirected path landing)
      | .allowed, some r => .ok (.allowed r)
      | .allowed, none => .error ⟨path⟩ := rfl

theorem go_of_open (h : Session.isOpen s = true) (path : String) :
    go s path = match Route.resolve path with
      | some r => .ok (.allowed r)
      | none => .error ⟨path⟩ := by
  rw [go_eq, Guard.decide_of_open h]
  cases Route.resolve path <;> rfl

/-- Where no session is, every path ends at the login page. -/
theorem go_of_closed (h : Session.isOpen s = false) (path : String) :
    go s path = .ok (if Route.resolve path = some .login then .allowed .login
      else .redirected path .login) := by
  rw [go_eq, Guard.decide_eq]
  by_cases login : Route.resolve path = some .login
  · rw [if_pos (.inl login), if_pos login, login]
  · have closed : ¬ (Route.resolve path = some .login ∨ Session.isOpen s = true) := by
      simp [login, h]
    rw [if_neg closed, if_neg login]

/-- The path of a page leads to the page, unless it needs a session and there is none. -/
theorem go_path (s : Store) (r : Route) :
    go s r.path = .ok (if r = .login ∨ Session.isOpen s then .allowed r
      else .redirected r.path .login) := by
  rw [go_eq, Guard.decide_eq, Route.resolve_path]
  by_cases allowed : r = .login ∨ Session.isOpen s
  · simp [allowed]
  · simp [allowed]

/-- How a navigation ends, and when it ends so. -/
inductive Ends (s : Store) (path : String) : Except Fault Navigation → Prop
  | allowed (r : Route) (leads : Route.resolve path = some r)
      (mayShow : r = .login ∨ Session.HasToken s) : Ends s path (.ok (.allowed r))
  | redirected (elsewhere : Route.resolve path ≠ some .login) (closed : ¬ Session.HasToken s) :
      Ends s path (.ok (.redirected path .login))
  | unknown (nowhere : Route.resolve path = none) (token : Session.HasToken s) :
      Ends s path (.error ⟨path⟩)

theorem ends_go (s : Store) (path : String) : Ends s path (go s path) := by
  by_cases token : Session.HasToken s
  · rw [go_of_open (Session.isOpen_iff_hasToken.mpr token)]
    cases leads : Route.resolve path with
    | some r => exact .allowed r leads (.inr token)
    | none => exact .unknown leads token
  · have closed : Session.isOpen s = false := by
      rwa [← Session.isOpen_iff_hasToken, Bool.not_eq_true] at token
    rw [go_of_closed closed]
    by_cases login : Route.resolve path = some .login
    · rw [if_pos login]
      exact .allowed .login login (.inl rfl)
    · rw [if_neg login]
      exact .redirected login token

/-- A page is shown exactly if the path leads to it, and it is the login page or a token can be
read. -/
theorem go_eq_allowed_iff {path : String} {r : Route} :
    go s path = .ok (.allowed r) ↔
      Route.resolve path = some r ∧ (r = .login ∨ Session.HasToken s) := by
  have ended := ends_go s path
  generalize go s path = result at ended ⊢
  cases ended <;> grind

/-- The login page is shown instead exactly if the path does not lead to it and no token can be
read. -/
theorem go_eq_redirected_iff {path requested : String} {landing : Route} :
    go s path = .ok (.redirected requested landing) ↔
      (requested = path ∧ landing = .login) ∧
        Route.resolve path ≠ some .login ∧ ¬ Session.HasToken s := by
  have ended := ends_go s path
  generalize go s path = result at ended ⊢
  cases ended <;> grind

/-- A path is reported as unknown exactly if it leads to no page and a token can be read. -/
theorem go_eq_error_iff {path : String} {f : Fault} :
    go s path = .error f ↔
      f = ⟨path⟩ ∧ Route.resolve path = none ∧ Session.HasToken s := by
  have ended := ends_go s path
  generalize go s path = result at ended ⊢
  cases ended <;> grind

/-- The current page after going to a path, where there is one to go to. -/
def currentVia (s : Store) (current : Option Route) (goesTo : Option String) : Option Route :=
  match goesTo with
  | some path => currentAfter current (go s path)
  | none => current

end Navigation

end AdminPanel
