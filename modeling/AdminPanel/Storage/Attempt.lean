import AdminPanel.Storage.Store

/-!
# Operations on a storage file, step by step

An operation on a storage file is many steps of the system, and the system may refuse any of them. Here
the steps are done one after the other on the tree, so that what a failure leaves is what had been done by
then. `Store.get`, `Store.set` and `Store.remove` are the same operations where the system refuses nothing;
they put the new file in its place as a whole, and give the tree back as it was if they fail.

## The architecture

* **`Plan`** — an operation reads the file once; what it has read decides what is left to do.
* **`Conditions`** — what an operation meets: the steps that are refused, the name of the temporary
  file, and how much of it has been written when writing breaks off.
* **`Conditions.replaceItems`** — the directories above the file, the temporary file, its bytes, the disk,
  the rename, in this order; whatever fails after the temporary file has been made takes it away again.
* **`Request.attempt`** — an operation as far as it comes.
-/

namespace AdminPanel.Storage

open FileTree (parentPath)
open Json (Members.find? Members.insert Members.erase)

/-! ## What is left when the file has been read -/

/-- What is left of an operation when it has read the file: its answer, or the items that it puts in
the place of the file. -/
inductive Plan where
  | answer (response : Response)
  | replace (items : Items)

/-- What an operation does with what it has read. Removing an item that is not there writes nothing. -/
def Request.plan : Request → Except Fault Items → Plan
  | _, .error e => .answer (.error e)
  | .get name, .ok items => .answer (.ok (Members.find? name items))
  | .set name value, .ok items => .replace (Members.insert name value items)
  | .remove name, .ok items =>
    match Members.find? name items with
    | none => .answer (.ok none)
    | some _ => .replace (Members.erase name items)

/-- The second step of an operation, done at once: its response, and the files that it leaves. -/
def Plan.finish (files : FileTree) (path : FilePath) : Plan → Response × FileTree
  | .answer response => (response, files)
  | .replace items =>
    match replaceItems files path items with
    | .error e => (.error e, files)
    | .ok files' => (.ok none, files')

/-! ## What an operation meets -/

/-- A step of an operation on a storage file that the system may refuse. -/
inductive FileStep where
  /-- Asking whether anything is at the path. -/
  | look
  | read
  | makeDirectory (path : FilePath)
  /-- Making the temporary file. -/
  | create
  | write
  /-- Bringing the temporary file to the disk. -/
  | sync
  | rename
  /-- Taking away the temporary file after a failure. -/
  | discard
  deriving Repr, DecidableEq

/-- What an operation meets. -/
structure Conditions where
  /-- The fault with which a step is refused. -/
  refuses : FileStep → Option FileFault
  /-- The name of the temporary file. -/
  temporary : String
  /-- The number of bytes that have been written when writing breaks off. -/
  arrived : Nat

/-- What is done to a tree, and may fail. What has been done by then stays. -/
abbrev OnTree := ExceptT FileFault (StateM FileTree)

/-- The result of what is done to a tree, and the tree after it. -/
def runOnTree {α : Type} (act : OnTree α) (t : FileTree) : Except FileFault α × FileTree :=
  (ExceptT.run act).run t

/-- An operation of the tree, which is done as a whole or not at all. -/
def OnTree.whole (op : FileTree → Except FileFault FileTree) : OnTree Unit := do
  match op (← get) with
  | .error e => throw e
  | .ok t => set t

namespace Conditions

variable (w : Conditions)

/-- Goes on, unless the system refuses the step. -/
def pass (s : FileStep) : OnTree Unit :=
  match w.refuses s with
  | some e => throw e
  | none => pure ()

/-! ## Reading -/

/-- Whether anything is found at a path. The question is not one that can fail: a system that refuses to
look is taken to have found nothing. -/
def finds (files : FileTree) (path : FilePath) : Bool :=
  (w.refuses .look).isNone && files.hasNode path

/-- Reads the items of a storage file, unless the system refuses to read it. A file that is not found holds
none, whatever the reason. -/
def readItems (files : FileTree) (path : FilePath) : Except Fault Items :=
  if !w.finds files path then .ok []
  else
    match w.refuses .read with
    | some e => .error (.io e)
    | none => Storage.readItems files path

/-! ## Replacing the file -/

/-- Makes a directory, and those above it that are missing, one after the other. The names are given
from the last to the first. -/
def makeDirsRev : List String → OnTree Unit
  | [] => pure ()
  | name :: above => do
    if name = "." ∨ name = "" then makeDirsRev above
    else
      let p := (name :: above).reverse
      match (← get).look p with
      | .ok .directory => pure ()
      | .ok (.file _) => throw .exists
      | .error .notFound => do
        makeDirsRev above
        -- a way that leads up ends in a directory as soon as the one it leads out of is there
        if name = ".." then pure ()
        else do
          w.pass (.makeDirectory p)
          OnTree.whole fun t => t.makeDir p
      | .error e => throw e

/-- Makes an empty file under the temporary name, where nothing may be yet, and gives its place. Its owner
alone may read it. -/
def createTemporary (directory : FilePath) : OnTree FilePath := do
  w.pass .create
  let t ← get
  match t.place (directory ++ [w.temporary]) with
  | .error e => throw e
  | .ok q =>
    match t.node? q with
    | some _ => throw .exists
    | none => do
      set (t.put q (.file ⟨[], true⟩))
      return q

/-- Writes bytes to the file at a place. Where writing is refused, some of them have been written. -/
def fill (q : FilePath) (bytes : List UInt8) : OnTree Unit := do
  match w.refuses .write with
  | some e => do
    modify fun t => t.put q (.file ⟨bytes.take w.arrived, true⟩)
    throw e
  | none => modify fun t => t.put q (.file ⟨bytes, true⟩)

/-- Fills the file at a place, brings it to the disk and renames it over a path. -/
def complete (q path : FilePath) (bytes : List UInt8) : OnTree Unit := do
  w.fill q bytes
  w.pass .sync
  w.pass .rename
  OnTree.whole fun t => t.rename q path

/-- Takes away the file at a place. Nobody hears of it if the system refuses. -/
def discard (q : FilePath) : OnTree Unit :=
  match w.refuses .discard with
  | some _ => pure ()
  | none => modify fun t => t.erase q

/-- Puts a complete new file in the place of another. The temporary file is taken away if it cannot be
completed. -/
def putInPlace (path : FilePath) (bytes : List UInt8) : OnTree Unit := do
  let q ← w.createTemporary (parentPath path)
  try w.complete q path bytes
  catch e =>
    w.discard q
    throw e

/-- Makes the directories that are missing, and puts a file with the items in place. -/
def replaceItems (path : FilePath) (items : Items) : OnTree Unit := do
  w.makeDirsRev (parentPath path).reverse
  w.putInPlace path items.document.toUTF8.toList

end Conditions

/-! ## Operations -/

/-- The second step of an operation, as far as it comes. -/
def Plan.attempt (w : Conditions) (path : FilePath) (files : FileTree) :
    Plan → Response × FileTree
  | .answer response => (response, files)
  | .replace items =>
    match runOnTree (w.replaceItems path items) files with
    | (.error e, files') => (.error (.io e), files')
    | (.ok (), files') => (.ok none, files')

/-- An operation on a storage file, as far as it comes: its response, and the files that it leaves. -/
def Request.attempt (r : Request) (w : Conditions) (path : FilePath) (files : FileTree) :
    Response × FileTree :=
  (r.plan (w.readItems files path)).attempt w path files

end AdminPanel.Storage
