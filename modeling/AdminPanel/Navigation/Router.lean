import AdminPanel.Navigation.Guard

/-!
# Navigation

A path text is resolved, the guard decides, and the page that is reached becomes the current one.
A path that leads nowhere is reported only to those who have a session; to all others it looks
like any page they may not see.
-/

namespace AdminPanel

open Storage (Store)

/-- Where a navigation ended: on the page that was wanted, or on another. A redirection keeps the text that
was asked for, as it was typed. -/
inductive Navigation where
  | allowed (route : Route)
  | redirected (requested : String) (landing : Route)
  deriving Repr, DecidableEq

namespace Navigation

/-- The page that is reached. -/
def route : Navigation → Route
  | .allowed r => r
  | .redirected _ landing => landing

/-- Whether another page was wanted. -/
def isRedirect : Navigation → Bool
  | .allowed _ => false
  | .redirected .. => true

/-- A path that leads to no page. -/
structure Fault where
  path : String
  deriving Repr, DecidableEq

def Fault.message (f : Fault) : String := "No route matches " ++ Text.quoted f.path

/-- Goes to a path text. The guard decides first: whoever has no session is sent to the login page even from
a path that leads nowhere, and only with a session such a path is a fault. -/
def go (s : Store) (path : String) : Except Fault Navigation :=
  let target := Route.resolve path
  match Guard.decide s target, target with
  | .redirected landing, _ => .ok (.redirected path landing)
  | .allowed, some r => .ok (.allowed r)
  | .allowed, none => .error ⟨path⟩

/-- The current page in listings. -/
def listing (current : Option Route) : String :=
  let shown := match current with
    | none => "None"
    | some r => "Some(" ++ r.variant ++ ")"
  "Router \x7b current: " ++ shown ++ ", .. \x7d"

/-- The current page after a navigation: the one reached, or the same as before. After a redirection it is
the page that it ended on. -/
def currentAfter (current : Option Route) : Except Fault Navigation → Option Route
  | .ok n => some n.route
  | .error _ => current

end Navigation

end AdminPanel
