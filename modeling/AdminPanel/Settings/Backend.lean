import AdminPanel.Text.Blank
import AdminPanel.Text.Quoted

/-!
# Storage backends

Where the session token is kept.
-/

namespace AdminPanel

/-- The places where a token can be kept. -/
inductive Backend where
  | file
  | keyring
  | memory
  deriving Repr, DecidableEq, Inhabited

namespace Backend

/-- The backends in the order in which they are listed. -/
def all : List Backend := [file, keyring, memory]

def name : Backend → String
  | .file => "file"
  | .keyring => "keyring"
  | .memory => "memory"

def ofName? (s : String) : Option Backend :=
  all.find? fun b => b.name == s

/-- The backend that a text names; case and blanks around it do not count. The fault names the text as it was
compared, and all that it could have been. -/
def parse (s : String) : Except String Backend :=
  let word := Text.lowerAscii (Text.trim s)
  match ofName? word with
  | some b => .ok b
  | none => .error
      ("Unknown storage backend " ++ Text.quoted word ++ " (expected file, keyring or memory)")

@[simp] theorem ofName?_name (b : Backend) : ofName? b.name = some b := by
  cases b <;> decide

end Backend

end AdminPanel
