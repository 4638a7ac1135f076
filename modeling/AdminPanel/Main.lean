import AdminPanel.Program.Run

/-!
# The program

Gathers what a run sees, runs it, and writes what it leaves. This build dials nobody, so every
call finds its peer unreachable. Nor has it a terminal to type a password at, or a manual: of a command line
that is refused it says what the program says itself, and no more.
-/

open AdminPanel

namespace AdminPanel.Main

/-- A path from the root as the system takes it. -/
def textOf (p : FilePath) : String := "/" ++ "/".intercalate p

/-- What the disk holds at a path. -/
def nodeAt (p : FilePath) : IO (Option Node) := do
  let path := (← IO.currentDir) / textOf p
  if ← path.isDir then return some .directory
  if ← path.pathExists then
    return some (.file ⟨(← IO.FS.readBinFile path).toList, false⟩)
  return none

/-- Adds a path, and the directories above it, to a tree. The names are given from the last to the
first. -/
def gather (t : FileTree) : List String → IO FileTree
  | [] => pure t
  | name :: above => do
    let t ← gather t above
    let p := (name :: above).reverse
    match ← (nodeAt p).toBaseIO with
    | .ok (some n) => return t.put p n
    | _ => return t

/-- A path without points and empty names. -/
def normal (p : FilePath) : FilePath :=
  p.foldl (fun done name =>
    if name = "." ∨ name = "" then done
    else if name = ".." then done.dropLast
    else done ++ [name]) []

/-- The environment files that may count, from a directory upwards. -/
def environmentFiles : List String → List FilePath
  | [] => [[".env"]]
  | name :: above => ((name :: above).reverse ++ [".env"]) :: environmentFiles above

/-- The variables that count. -/
def ownEnvironment : IO Environment := do
  let names := [Settings.addressVariable, Program.passwordVariable, "HOME", "XDG_CONFIG_HOME",
    "XDG_DATA_HOME"]
  names.filterMapM fun name => do return (← IO.getEnv name).map (name, ·)

/-- The home directory on record for the user who runs the program. -/
def home : IO FilePath := do
  let some user ← IO.getEnv "USER" | return []
  -- a record is a line of fields between colons, the name first and the directory sixth
  let records ← (IO.FS.lines "/etc/passwd").toBaseIO
  let fields := (records.toOption.getD #[]).toList.map (·.splitOn ":")
  return match fields.find? fun f => f.head? == some user with
    | some f => FileTree.pathOf [] (f.getD 5 "")
    | none => []

/-- The time: that of a file which is made now. -/
def now : IO Time.Instant := do
  let (_, path) ← IO.FS.createTempFile
  let time := (← path.metadata).modified
  IO.FS.removeFile path
  return (Time.Instant.ofParts? time.sec time.nsec.toNat).getD .epoch

/-- Adds paths to a tree. A path that goes up and down again is walked through all its
directories. -/
def gatherAll (t : FileTree) (paths : List FilePath) : IO FileTree :=
  (paths.flatMap fun p => [p, normal p]).foldlM (fun t p => gather t p.reverse) t

/-- What a run sees of this machine, with the variables of the environment file. -/
def hostFor (words : List String) : IO Program.Host := do
  let directory := FileTree.pathOf [] (← IO.currentDir).toString
  let files ← gatherAll {} (environmentFiles directory.reverse)
  let host := Program.withVariables {
    files, directory
    home := ← home
    environment := ← ownEnvironment
    clock := ⟨← now, .zero⟩ }
  let paths := host.settingsPath :: host.storagePath :: words.map (FileTree.pathOf directory)
  return { host with files := ← gatherAll host.files paths }

/-- Writes a file that a run has changed. Files that have stayed the same are not touched. -/
def writeBack (before after : FileTree) (p : FilePath) : IO Unit := do
  match after.look p with
  | .ok (.file f) =>
    if (before.look p).toOption ≠ some (.file f) then
      let path := (← IO.currentDir) / textOf p
      IO.FS.createDirAll ((← IO.currentDir) / textOf p.dropLast)
      IO.FS.writeBinFile path ⟨f.bytes.toArray⟩
      if f.ownerOnly then
        IO.setAccessRights path ⟨⟨true, true, false⟩, {}, {}⟩
  | _ => pure ()

/-- Lets the account be typed if the run asks for it, and gives the host with it, and how much of
the output has been written already. -/
def withInput (host : Program.Host) (words : List String) : IO (Program.Host × Nat) := do
  if Program.asksAccount host words then
    let stdout ← IO.getStdout
    stdout.putStr Program.accountPrompt
    stdout.flush
    return ({ host with input := ← (← IO.getStdin).getLine }, Program.accountPrompt.length)
  else return (host, 0)

end AdminPanel.Main

/-- Runs the program. -/
def main (words : List String) : IO UInt32 := do
  let (host, written) ← Main.withInput (← Main.hostFor words) words
  let o := Program.run host words
  for p in [host.settingsPath, host.storagePath] do
    Main.writeBack host.files o.files p
  (← IO.getStdout).putStr (String.ofList (o.stdout.toList.drop written))
  for w in o.log do
    (← IO.getStderr).putStrLn ("WARN " ++ w.message)
  (← IO.getStderr).putStr o.stderr
  return o.exit
