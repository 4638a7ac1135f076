import AdminPanel.CommandLine.Fault
import AdminPanel.EnvFile
import AdminPanel.Page.Load

/-!
# What a run starts from, and what it leaves

A host is all that a run of the program sees: files, variables, what is typed, the clock, and the
peer that its calls would reach. A run leaves its output, what it has logged, the files, and the peer.
-/

namespace AdminPanel.Program

/-- What a run sees. -/
structure Host where
  files : FileTree := {}
  /-- Where relative paths start. -/
  directory : FilePath := []
  /-- The home directory that the system has on record for the user. -/
  home : FilePath := []
  environment : Environment := []
  /-- What is typed where a line is asked for. -/
  input : String := ""
  /-- What is typed where a password is asked for, at the terminal and not in the input. There may be no
  terminal. -/
  typedPassword : Option String := none
  clock : Page.Clock
  hasRoots : Bool := true
  peer : Rpc.Peer := .unreachable
  /-- What the reader of command lines has to say when it refuses one, or is asked for help. It makes these
  texts itself, from the grammar of the command line. -/
  manual : CommandLine.Fault → String := fun _ => ""

namespace Host

/-- The variables of the host, and of the nearest environment file. The file never replaces a variable that is
set. -/
def fullEnvironment (h : Host) : Environment :=
  match EnvFile.findFrom h.files h.directory.reverse with
  | some bytes => EnvFile.load h.environment bytes
  | none => h.environment

/-- The home directory: the one that the environment names, or else the one on record. -/
def homeDirectory (h : Host) : FilePath :=
  match (h.environment.get? "HOME").filter fun text => !text.isEmpty with
  | some text => FileTree.pathOf h.directory text
  | none => h.home

/-- The directory that a variable names from the root, or else one in the home directory. A variable that
names it from elsewhere does not count, since nobody could tell where that is. -/
def directoryOf (h : Host) (name : String) (inHome : FilePath) : FilePath :=
  match (h.environment.get? name).filter (·.toList.head? == some '/') with
  | some text => FileTree.pathOf [] text
  | none => h.homeDirectory ++ inHome

/-- Where the settings are kept. -/
def settingsPath (h : Host) : FilePath :=
  h.directoryOf "XDG_CONFIG_HOME" [".config"] ++ ["ocpanel", "config.json"]

/-- Where the items of a file storage are kept. -/
def storagePath (h : Host) : FilePath :=
  h.directoryOf "XDG_DATA_HOME" [".local", "share"] ++ ["ocpanel", "storage.json"]

/-- The first line of what is typed, without blanks around it. Where nothing is typed it is empty. -/
def typedLine (h : Host) : String :=
  Text.trim (String.ofList (h.input.toList.takeWhile (· != '\n')))

end Host

/-- What is logged at the level of warnings, which is the level that is logged unless the environment asks
for another. -/
inductive Warning where
  /-- A navigation has found the storage of the session unreadable. -/
  | unreadableSession (fault : Storage.Fault)
  /-- A login could not be recorded in the settings file. -/
  | unsavedSettings (fault : FileFault)
  deriving Repr, DecidableEq

/-- A warning as it is logged, behind the time and the place in the program. -/
def Warning.message : Warning → String
  | .unreadableSession f =>
    "Session storage unreadable, treating as logged out error=" ++ f.message
  | .unsavedSettings f => "Failed to save config error=" ++ f.message

/-- What a run leaves. -/
structure Outcome where
  exit : UInt32
  stdout : String := ""
  /-- The error output, but for what is logged there. -/
  stderr : String := ""
  /-- The warnings that are logged, in order. -/
  log : List Warning := []
  /-- The calls that reached the peer, in order. -/
  calls : List Rpc.Call := []
  files : FileTree
  peer : Rpc.Peer

end AdminPanel.Program
