import AdminPanel.FileTree
import AdminPanel.Json.Typed
import AdminPanel.Json.Fault
import AdminPanel.Text.Blank

/-!
# Storages

A storage keeps texts under names. It lives in memory, in a file that holds one JSON object of
strings, or in a keychain of which this build has none. A storage may also refuse some operations.

Every operation on a file starts by reading it, so that several storages on one file see each
other's writes; a write puts a complete new file in the place of the old one.

An operation here is done as a whole or not at all, and one that fails gives no storage: whoever has asked for
it goes on with the one before. On a real disk a write is many steps, and one that fails may leave directories
that it has made. `Storage.Attempt` does the same operations step by step and says what is left then; no file
is ever among it.
-/

namespace AdminPanel.Storage

/-- The items of a storage, in ascending order of their names. -/
abbrev Items := List (String × String)

/-- Why a storage operation fails. -/
inductive Fault where
  | io (fault : FileFault)
  | corrupt (fault : Json.Fault)
  | emptyToken
  | unavailable (reason : String)
  deriving Repr, DecidableEq

/-- The fault behind the fault, in words. -/
def Fault.cause? : Fault → Option String
  | .io f => some f.message
  | .corrupt f => some f.message
  | .emptyToken => none
  | .unavailable _ => none

def Fault.message : Fault → String
  | .io f => "Storage I/O failed: " ++ f.message
  | .corrupt f => "Storage file is corrupt: " ++ f.message
  | .emptyToken => "Refusing to store an empty token"
  | .unavailable reason => "Storage unavailable: " ++ reason

/-- Which operations a storage refuses. -/
structure Refusals where
  get : Bool := false
  set : Bool := false
  remove : Bool := false
  deriving Repr, DecidableEq, Inhabited

/-- Where items are kept. -/
inductive Place where
  | memory (items : Items)
  | file (path : FilePath)
  | keychain
  | refusing (refusals : Refusals) (items : Items)
  deriving Repr, DecidableEq

/-! ## Documents of items -/

/-- The document that a storage file holds: one object, with the items as its members. -/
def Items.document (items : Items) : String :=
  (Json.Value.object (items.map fun (k, v) => (k, .string v))).print

/-- The items of a document. A blank document holds none. -/
def Items.ofDocument (text : String) : Except Json.Fault Items :=
  if Text.isAllBlank text then .ok [] else Json.Reader.stringMembers.readAll text

/-! ## Steps on a storage file -/

/-- Reads the items of a storage file. A file that cannot be found holds none, whatever keeps it from being
found; all else that goes wrong is a fault, and a document of another kind is never taken for an empty one. -/
def readItems (files : FileTree) (path : FilePath) : Except Fault Items :=
  if !files.hasNode path then .ok []
  else
    match files.readText path with
    | .error e => .error (.io e)
    | .ok text =>
      match Items.ofDocument text with
      | .error e => .error (.corrupt e)
      | .ok items => .ok items

/-- Puts a file with the items in the place of the storage file. Missing directories are made first, and the
new file appears as a whole. If either fails no tree is given, so that the directories that were made in the
meantime do not show here: `Conditions.replaceItems` keeps them. -/
def replaceItems (files : FileTree) (path : FilePath) (items : Items) :
    Except Fault FileTree :=
  match files.makeDirs (FileTree.parentPath path) with
  | .error e => .error (.io e)
  | .ok made =>
    match made.replace path items.document.toUTF8.toList with
    | .error e => .error (.io e)
    | .ok replaced => .ok replaced

/-! ## Stores -/

/-- A storage and the files around it. The files belong to whatever the storage is, since settings and
configurations are read from them, too. -/
structure Store where
  place : Place := .memory []
  files : FileTree := {}
  deriving Repr, DecidableEq

namespace Store

/-- The item under a name, if there is one. -/
def get (s : Store) (name : String) : Except Fault (Option String) :=
  match s.place with
  | .memory items => .ok (Json.Members.find? name items)
  | .file path => do return Json.Members.find? name (← readItems s.files path)
  | .keychain => .ok none
  | .refusing refusals items =>
    if refusals.get then .error (.unavailable "storage disabled")
    else .ok (Json.Members.find? name items)

/-- Puts an item under a name, in the place of any other. Over a file, all items are read and all are written
again, with the new one among them. The keychain takes everything and keeps nothing, since each operation
opens an entry of its own there, and this build has no keychain behind it. -/
def set (s : Store) (name value : String) : Except Fault Store :=
  match s.place with
  | .memory items => .ok { s with place := .memory (Json.Members.insert name value items) }
  | .file path => do
    let items ← readItems s.files path
    return { s with files := ← replaceItems s.files path (Json.Members.insert name value items) }
  | .keychain => .ok s
  | .refusing refusals items =>
    if refusals.set then .error (.unavailable "quota exceeded")
    else .ok { s with place := .refusing refusals (Json.Members.insert name value items) }

/-- Removes the item under a name. A file without it is not touched, so that nothing is made for a removal
that has nothing to remove. -/
def remove (s : Store) (name : String) : Except Fault Store :=
  match s.place with
  | .memory items => .ok { s with place := .memory (Json.Members.erase name items) }
  | .file path => do
    let items ← readItems s.files path
    match Json.Members.find? name items with
    | none => return s
    | some _ =>
      return { s with files := ← replaceItems s.files path (Json.Members.erase name items) }
  | .keychain => .ok s
  | .refusing refusals items =>
    if refusals.remove then .error (.unavailable "storage disabled")
    else .ok { s with place := .refusing refusals (Json.Members.erase name items) }

end Store

/-! ## Operations as data -/

/-- An operation on a storage. -/
inductive Request where
  | get (name : String)
  | set (name value : String)
  | remove (name : String)
  deriving Repr, DecidableEq

/-- What an operation gives: the item that was asked for, or nothing. -/
abbrev Response := Except Fault (Option String)

/-- Does an operation that replaces a storage; one that fails leaves it. -/
def Store.settle (s : Store) : Except Fault Store → Response × Store
  | .ok s' => (.ok none, s')
  | .error e => (.error e, s)

/-- Does an operation on a storage. -/
def Store.serve (s : Store) : Request → Response × Store
  | .get name => (s.get name, s)
  | .set name value => s.settle (s.set name value)
  | .remove name => s.settle (s.remove name)

/-- Does operations one after the other. -/
def Store.serveAll (s : Store) : List Request → List Response × Store
  | [] => ([], s)
  | r :: rest =>
    let (response, s) := s.serve r
    let (responses, s) := s.serveAll rest
    (response :: responses, s)

end AdminPanel.Storage
