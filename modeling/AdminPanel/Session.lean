import AdminPanel.Storage.Store

/-!
# The session

Whoever is logged in has a token in the storage, under one name. The storage is asked every time;
nothing else remembers whether there is a session. An empty token counts as none and is never
stored.
-/

namespace AdminPanel.Session

open Storage (Store Fault)

/-- The name under which the token is stored. -/
def tokenName : String := "token"

/-- The token of the session, if there is one. The storage is read; an item with an empty text counts as no
token, since someone else may have put it there. -/
def token (s : Store) : Except Fault (Option String) := do
  return (← s.get tokenName).filter fun t => !t.isEmpty

/-- Begins a session: puts the token into the storage, in the place of any other. An empty token is refused
before the storage is touched. -/
def start (s : Store) (token : String) : Except Fault Store :=
  if token.isEmpty then .error .emptyToken else s.set tokenName token

/-- Ends the session: takes the token out of the storage. There need not have been one. -/
def finish (s : Store) : Except Fault Store :=
  s.remove tokenName

/-- Whether there is a session. A storage that cannot be read has none: nobody is told why, since the answer
is no more than yes or no. -/
def isOpen (s : Store) : Bool :=
  match token s with
  | .ok (some _) => true
  | _ => false

end AdminPanel.Session
