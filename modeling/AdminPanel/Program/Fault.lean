import AdminPanel.Navigation.Router
import AdminPanel.Page.Action
import AdminPanel.Settings.Files
import AdminPanel.Text.Padding

/-!
# Why a run fails

A run that fails reports what it could not do, and then the faults behind it, the nearest first.
-/

namespace AdminPanel.Program

/-- Why a run fails: what it could not do, and the fault behind it. -/
inductive Fault where
  | settings (fault : Settings.Fault)
  | address (fault : Address.Fault)
  | notLoggedIn (requested : String)
  | navigation (fault : Navigation.Fault)
  | rpc (failure : Rpc.Failure)
  | login (fault : Page.LoginFault)
  | readToken (fault : Storage.Fault)
  | clearToken (fault : Storage.Fault)
  | readFile (name : String) (fault : FileFault)
  /-- There is no terminal to type a password at. -/
  | noTerminal
  deriving Repr, DecidableEq

namespace Fault

/-- What a run could not do, in words. Where the fault behind it says enough, its own words stand here. -/
def message : Fault → String
  | .settings _ => "Failed to load config"
  | .address _ => "Invalid server base address"
  | .notLoggedIn requested =>
    "Not logged in: " ++ requested ++ " requires a session. Run `ocpanel login` first."
  | .navigation f => f.message
  | .rpc f => f.message
  | .login f => f.message
  | .readToken _ => "Failed to read session token"
  | .clearToken _ => "Failed to clear session token"
  | .readFile name _ => "Failed to read " ++ name
  | .noTerminal => "No such device or address (os error 6)"

/-- A storage fault and the one behind it, in words. -/
def storageCauses (f : Storage.Fault) : List String :=
  f.message :: f.cause?.toList

/-- The faults behind the fault, in words, the nearest first. -/
def causes : Fault → List String
  | .settings f => [f.message]
  | .address f => f.message :: f.causes
  | .login (.storage f) => storageCauses f
  | .readToken f => storageCauses f
  | .clearToken f => storageCauses f
  | .readFile _ f => [f.message]
  | .notLoggedIn _ | .navigation _ | .rpc _ | .login _ | .noTerminal => []

/-! ### The chain of a fault

A fault and those behind it are of many kinds, and whoever walks over them asks each for its kind. -/

/-- A fault in a chain, by its kind. -/
inductive Link where
  /-- What the program says of a fault, or a fault of a kind that nobody asks for. -/
  | words (text : String)
  | rpc (failure : Rpc.Failure)
  | login (fault : Page.LoginFault)
  | storage (fault : Storage.Fault)
  deriving Repr, DecidableEq

def Link.message : Link → String
  | .words text => text
  | .rpc f => f.message
  | .login f => f.message
  | .storage f => f.message

/-- A storage fault and the one behind it. -/
def storageChain (f : Storage.Fault) : List Link :=
  .storage f :: f.cause?.toList.map .words

/-- A fault and those behind it. The failure of a login whose call has failed is transparent: it speaks with
the words of the call's failure and stands in its place, so that this one is no link of the chain. -/
def chain : Fault → List Link
  | .rpc f => [.rpc f]
  | .login (.rpc f) => [.login (.rpc f)]
  | .login (.storage f) => .login (.storage f) :: storageChain f
  | .login (.missingField name) => [.login (.missingField name)]
  | .readToken f => .words (Fault.readToken f).message :: storageChain f
  | .clearToken f => .words (Fault.clearToken f).message :: storageChain f
  | f@(.settings _) | f@(.address _) | f@(.notLoggedIn _) | f@(.navigation _)
  | f@(.readFile _ _) | f@.noTerminal => (f.message :: f.causes).map .words

/-- What is reported of a fault are the words of its chain. -/
theorem chain_message (f : Fault) : f.chain.map Link.message = f.message :: f.causes := by
  have words (texts : List String) : (texts.map Link.words).map Link.message = texts := by
    simp [Link.message, Function.comp_def]
  have storage (f : Storage.Fault) : (storageChain f).map Link.message = storageCauses f := by
    simp [storageChain, storageCauses, Link.message, Function.comp_def]
  cases f with
  | login f => cases f <;> simp [chain, message, causes, Link.message, storage]
  | readToken | clearToken => simp [chain, message, causes, Link.message, storage]
  | rpc => rfl
  | settings | address | notLoggedIn | navigation | readFile | noTerminal => exact words _

def Link.refusesSession : Link → Bool
  | .rpc f => f.isAuthentication
  | _ => false

/-- Whether the chain holds a call that the server has refused for its session. -/
def refusesSession (f : Fault) : Bool := f.chain.any Link.refusesSession

/-- The text of a cause: its first line behind a lead, the others behind as many blanks. -/
def indented (lead blanks text : String) : String :=
  lead ++ ("\n" ++ blanks).intercalate (text.splitOn "\n") ++ "\n"

/-- The causes, each on lines of its own. Several are numbered. -/
def causesText : List String → String
  | [cause] => indented "    " "    " cause
  | causes =>
    String.join (causes.zipIdx.map fun (cause, n) =>
      indented (Text.padLeft 5 (toString n) ++ ": ") "       " cause)

/-- The report of a fault: what could not be done, and the faults behind it. -/
def report (f : Fault) : String :=
  "Error: " ++ f.message ++ "\n"
    ++ if f.causes.isEmpty then "" else "\nCaused by:\n" ++ causesText f.causes

/-- What is advised when the server refuses the session. -/
def advice : String := "The server rejected the session. Run `ocpanel login` again.\n"

end Fault

end AdminPanel.Program
