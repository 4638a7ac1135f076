import AdminPanel.Navigation.Route
import AdminPanel.Session

/-!
# The guard

Whoever has no session is sent to the login page, whatever page was wanted. A storage that cannot
be read counts as no session.
-/

namespace AdminPanel.Guard

open Storage (Store)

/-- Whether a navigation may go on. -/
inductive Decision where
  | allowed
  | redirected (landing : Route)
  deriving Repr, DecidableEq

/-- Decides on a page; `none` is a path that leads to no page. The login page is for everyone, and all else,
pages or not, for those who have a session. The page that was current does not count: it is told to the guard
only to be logged. -/
def decide (s : Store) (target : Option Route) : Decision :=
  if target = some .login ∨ Session.isOpen s then .allowed else .redirected .login

/-- The fault on account of which a decision counts no session, which is logged. For the login page nobody
asks. -/
def unread? (s : Store) (target : Option Route) : Option Storage.Fault :=
  if target = some .login then none
  else
    match Session.token s with
    | .error e => some e
    | .ok _ => none

end AdminPanel.Guard
