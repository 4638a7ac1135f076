/-!
# File trees

The files that the panel reads and writes, as a value. Paths are sequences of names from the root.
Operations fail with the error that the operating system would report.

An operation that fails gives no tree, so that whoever has asked for it goes on with the one before. Of the
operations here only `makeDirs` is more than one step of the system, and can break off behind directories that
have been made already; where these matter, it is done step by step (`Storage.Conditions.makeDirsRev`).
-/

namespace AdminPanel

/-- A file: its bytes, and whether its owner alone may read it. -/
structure FileNode where
  bytes : List UInt8
  ownerOnly : Bool := false
  deriving Repr, DecidableEq

/-- What stands at a path. -/
inductive Node where
  | file (f : FileNode)
  | directory
  deriving Repr, DecidableEq

/-- Names from the root. -/
abbrev FilePath := List String

/-- Why a file operation fails. -/
inductive FileFault where
  | notFound
  | exists
  | notDirectory
  | isDirectory
  | nameTooLong
  | embeddedNul
  | notUtf8
  /-- Anything else that the system may report, in its words. -/
  | other (words : String)
  deriving Repr, DecidableEq

def FileFault.message : FileFault → String
  | .notFound => "No such file or directory (os error 2)"
  | .exists => "File exists (os error 17)"
  | .notDirectory => "Not a directory (os error 20)"
  | .isDirectory => "Is a directory (os error 21)"
  | .nameTooLong => "File name too long (os error 36)"
  | .embeddedNul => "file name contained an unexpected NUL byte"
  | .notUtf8 => "stream did not contain valid UTF-8"
  | .other words => words

/-- Files and directories by path. The root is always a directory. A node may stand where nothing leads, with
no directory above it; it is found by nobody until there is one. -/
structure FileTree where
  nodes : List (FilePath × Node) := []
  deriving Repr, DecidableEq, Inhabited

namespace FileTree

/-- What stands at a path, whatever stands above it. -/
def node? (t : FileTree) (p : FilePath) : Option Node :=
  if p = [] then some .directory else (t.nodes.find? fun n => n.1 == p).map (·.2)

/-- Puts something at a path, in the place of whatever stands there. -/
def put (t : FileTree) (p : FilePath) (n : Node) : FileTree :=
  ⟨(p, n) :: t.nodes.filter fun m => m.1 ≠ p⟩

/-- Takes away what stands at a path. -/
def erase (t : FileTree) (p : FilePath) : FileTree :=
  ⟨t.nodes.filter fun m => m.1 ≠ p⟩

theorem node?_put_self (t : FileTree) {p : FilePath} (h : p ≠ []) (n : Node) :
    (t.put p n).node? p = some n := by
  simp [node?, put, h]

theorem node?_put_of_ne (t : FileTree) {p q : FilePath} (h : p ≠ q) (n : Node) :
    (t.put p n).node? q = t.node? q := by
  have keeps (m : FilePath × Node) : (!decide (m.1 = p) && decide (m.1 = q)) = (m.1 == q) := by
    by_cases e : m.1 = q
    · simp [e, Ne.symm h]
    · simp [e]
  have other : (p == q) = false := by simpa using h
  simp only [node?, put, List.find?_cons, other, List.find?_filter]
  simp [keeps]

/-- The most bytes of a name. -/
def maxNameLength : Nat := 255

/-- Whether a name is longer than names can be. -/
def isTooLong (name : String) : Bool := maxNameLength < name.utf8ByteSize

/-- Whether a path cannot be handed to the system at all. -/
def hasNul (p : FilePath) : Bool := p.any fun name => name.toList.contains '\x00'

/-- Walks down from a directory by names, and gives the place that is reached with what stands there. A single
point stays, two points go up, and from the root they stay, too. Every name is looked up on the way, so that
`missing/..` is not found although its end is. -/
def walk (t : FileTree) (done : FilePath) : List String → Except FileFault (FilePath × Node)
  | [] =>
    match t.node? done with
    | some n => .ok (done, n)
    | none => .error .notFound
  | name :: rest =>
    match t.node? done with
    | none => .error .notFound
    | some (.file _) => .error .notDirectory
    | some .directory =>
      if name = "." ∨ name = "" then walk t done rest
      else if name = ".." then walk t done.dropLast rest
      else if isTooLong name then .error .nameTooLong
      else walk t (done ++ [name]) rest

/-- What stands at a path, every name above it being a directory. -/
def look (t : FileTree) (p : FilePath) : Except FileFault Node :=
  if hasNul p then .error .embeddedNul else (t.walk [] p).map (·.2)

/-- Whether anything can be found at a path. Whatever keeps it from being found, the answer is no. -/
def hasNode (t : FileTree) (p : FilePath) : Bool :=
  (t.look p).isOk

/-- The bytes of a file. -/
def readBytes (t : FileTree) (p : FilePath) : Except FileFault (List UInt8) := do
  match ← t.look p with
  | .file f => .ok f.bytes
  | .directory => .error .isDirectory

/-- The text of a file, all of which must be text. -/
def readText (t : FileTree) (p : FilePath) : Except FileFault String := do
  let bytes ← t.readBytes p
  match String.fromUTF8? ⟨bytes.toArray⟩ with
  | some s => .ok s
  | none => .error .notUtf8

/-- The names of a path from the last to the first, without empty ones in front. -/
def fromLast (p : FilePath) : List String :=
  p.reverse.dropWhile (· == "")

/-- Whether a path ends in a slash, so that it can only name a directory. -/
def wantsDirectory (p : FilePath) : Bool :=
  p.getLast? == some ""

/-- The path of the directory around what a path names. Points and slashes at an end do not
count. -/
def parentPath (p : FilePath) : FilePath :=
  let trim (names : List String) := names.dropWhile fun n => n == "" || n == "."
  (trim ((trim p.reverse).drop 1)).reverse

/-- The place at which a path would be created: its name below an existing directory. All that stands above
must be there, and the name itself must be one that can be given. -/
def place (t : FileTree) (p : FilePath) : Except FileFault FilePath := do
  if hasNul p then .error .embeddedNul
  match fromLast p with
  | [] => .error .isDirectory
  | name :: above =>
    match ← t.walk [] above.reverse with
    | (_, .file _) => .error .notDirectory
    | (parent, .directory) =>
      if name = "." ∨ name = ".." then .error .isDirectory
      else if isTooLong name then .error .nameTooLong
      else .ok (parent ++ [name])

/-- Makes one directory. -/
def makeDir (t : FileTree) (p : FilePath) : Except FileFault FileTree := do
  let q ← t.place p
  match t.node? q with
  | some _ => .error .exists
  | none => .ok (t.put q .directory)

/-- Makes a directory, and those above it that are missing. The names are given from the last to
the first. The whole path is tried before those above it, so that what is there already is not touched. -/
def makeDirsRev (t : FileTree) : List String → Except FileFault FileTree
  | [] => .ok t
  | name :: above =>
    if name = "." ∨ name = "" then makeDirsRev t above
    else
      let p := (name :: above).reverse
      match t.look p with
      | .ok .directory => .ok t
      | .ok (.file _) => .error .exists
      | .error .notFound => do
        let t ← makeDirsRev t above
        -- a way that leads up ends in a directory as soon as the one it leads out of is there
        if name = ".." then .ok t else t.makeDir p
      | .error e => .error e

/-- Makes a directory, and those above it that are missing. -/
def makeDirs (t : FileTree) (p : FilePath) : Except FileFault FileTree :=
  t.makeDirsRev p.reverse

/-- Writes a file in place; a new one may be read by all, and one that is there keeps its rights. -/
def write (t : FileTree) (p : FilePath) (bytes : List UInt8) : Except FileFault FileTree := do
  let q ← t.place p
  match t.node? q with
  | some .directory => .error .isDirectory
  | some (.file f) =>
    if wantsDirectory p then .error .notDirectory
    else .ok (t.put q (.file ⟨bytes, f.ownerOnly⟩))
  | none =>
    if wantsDirectory p then .error .isDirectory else .ok (t.put q (.file ⟨bytes, false⟩))

/-- Renames a complete new file, which its owner alone may read, over a path. There is no moment at which the
file is missing, or holds a part of the bytes. -/
def replace (t : FileTree) (p : FilePath) (bytes : List UInt8) : Except FileFault FileTree := do
  let q ← t.place p
  if wantsDirectory p then .error .notDirectory
  else
    match t.node? q with
    | some .directory => .error .isDirectory
    | _ => .ok (t.put q (.file ⟨bytes, true⟩))

/-- Renames the file at a place over a path. -/
def rename (t : FileTree) (q p : FilePath) : Except FileFault FileTree := do
  let r ← t.place p
  if wantsDirectory p then .error .notDirectory
  else
    match t.node? q, t.node? r with
    | some (.file _), some .directory => .error .isDirectory
    | some (.file f), _ => .ok ((t.erase q).put r (.file f))
    | _, _ => .error .notFound

/-- Removes a file. -/
def remove (t : FileTree) (p : FilePath) : Except FileFault FileTree := do
  let q ← t.place p
  match t.node? q with
  | some (.file _) => if wantsDirectory p then .error .notDirectory else .ok (t.erase q)
  | some .directory => .error .isDirectory
  | none => .error .notFound

/-- The names in a directory, in order; none if the path leads to no directory. -/
def names (t : FileTree) (p : FilePath) : List String :=
  match t.walk [] p with
  | .ok (q, .directory) =>
    (t.nodes.filterMap fun n =>
      match n.1.getLast? with
      | some name => if n.1.dropLast = q then some name else none
      | none => none).mergeSort (fun a b => !decide (b < a))
  | _ => []

/-- The names of a path text, which starts at `here` unless it starts with a slash. -/
def pathOf (here : FilePath) (text : String) : FilePath :=
  match (text.splitOn "/") with
  | "" :: rest => rest
  | names => here ++ names

end FileTree

end AdminPanel
