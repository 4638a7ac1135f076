import AdminPanel.Page.Action
import AdminPanel.Storage.Attempt

/-!
# What is undertaken with a storage

An item is put, removed or asked for, a session is begun or ended, someone logs in: all of it comes down to
operations on the storage, and over a storage file each of them may break off. `Undertaking.run` is what the
panel does, and `Undertaking.attempt` is the same as far as it comes in given conditions.
-/

namespace AdminPanel.Page

open Rpc
open Session (tokenName)
open Storage (Store Conditions Request Response)

/-- What may be undertaken with a storage. -/
inductive Undertaking where
  | item (r : Request)
  | start (token : String)
  | finish
  | login (account password : String)

/-- What comes of it. -/
inductive Outcome where
  | storage (r : Response)
  | login (r : Except LoginFault UInt64)

def Outcome.Failed : Outcome → Prop
  | .storage r => ∃ e, r = .error e
  | .login r => ∃ e, r = .error e

/-- What comes of an operation of the storage, and the line with the storage that it leaves. -/
def served (l : Line) (ended : Response × Store) : Outcome × Line :=
  (.storage ended.1, { l with store := ended.2 })

/-- The same of an operation on a storage file, by the files that it leaves. -/
def servedFiles (l : Line) (path : FilePath) (left : Response × FileTree) : Outcome × Line :=
  served l (left.1, ⟨.file path, left.2⟩)

namespace Undertaking

/-- What the panel does. -/
def run (l : Line) : Undertaking → Outcome × Line
  | .item r => served l (l.store.serve r)
  | .start token => served l (l.store.settle (Session.start l.store token))
  | .finish => served l (l.store.settle (Session.finish l.store))
  | .login account password =>
    let ended := runOn (Page.login account password) l
    (.login ended.1, ended.2)

/-! ## As far as it comes -/

/-- Begins a session, as far as it comes. An empty token is refused before anything is read. -/
def startAttempt (w : Conditions) (path : FilePath) (files : FileTree) (token : String) :
    Response × FileTree :=
  if token.isEmpty then (.error .emptyToken, files)
  else (Request.set tokenName token).attempt w path files

/-- How a login fails for whose call the token cannot be read. -/
def unsent (l : Line) (e : Storage.Fault) : Failure :=
  match l.transport.methodPath Method.auth.service.name Method.auth.name with
  | .error s => .ofStatus s
  | .ok _ => .ofStatus ⟨.internal, "credential storage unavailable: " ++ e.message, []⟩

/-- Logs in, as far as it comes: the token is read for the call, and after the call one is stored. The call
carries the token among the items that have been read, as it would over a storage that holds them in
memory. -/
def loginAttempt (asking storing : Conditions) (path : FilePath) (l : Line)
    (account password : String) : Except LoginFault UInt64 × Line :=
  if (Text.trim account).isEmpty then (.error (.missingField "account"), l)
  else if password.isEmpty then (.error (.missingField "password"), l)
  else
    match asking.readItems l.store.files path with
    | .error e => (.error (.rpc (unsent l e)), l)
    | .ok items =>
      match runOn (unary .auth (authRequest account password))
        { l with store := ⟨.memory items, l.store.files⟩ } with
      | (.error f, l') => (.error (.rpc f), { l' with store := l.store })
      | (.ok response, l') =>
        match startAttempt storing path l.store.files response.token with
        | (.error e, files) => (.error (.storage e), { l' with store := ⟨.file path, files⟩ })
        | (.ok _, files) => (.ok response.id, { l' with store := ⟨.file path, files⟩ })

/-- What is done on a line with a storage file, as far as it comes. A login meets conditions of its own
when it reads the token for its call. -/
def attempt (asking storing : Conditions) (path : FilePath) (l : Line) :
    Undertaking → Outcome × Line
  | .item r => servedFiles l path (r.attempt storing path l.store.files)
  | .start token => servedFiles l path (startAttempt storing path l.store.files token)
  | .finish => servedFiles l path ((Request.remove tokenName).attempt storing path l.store.files)
  | .login account password =>
    let ended := loginAttempt asking storing path l account password
    (.login ended.1, ended.2)

end Undertaking

/-! ## Attempts in a row -/

/-- Something undertaken, and what it meets. -/
structure Attempt where
  undertaking : Undertaking
  asking : Conditions
  storing : Conditions

/-- What comes of attempts one after the other, and the line after them. -/
def attemptAll (path : FilePath) (l : Line) : List Attempt → List Outcome × Line
  | [] => ([], l)
  | a :: rest =>
    let ended := a.undertaking.attempt a.asking a.storing path l
    let others := attemptAll path ended.2 rest
    (ended.1 :: others.1, others.2)

end AdminPanel.Page
