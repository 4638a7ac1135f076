import AdminPanel.CommandLine.Scan
import AdminPanel.Settings.Basic

/-!
# Commands

What a command line means: a command with its arguments, and the options that steer it. An option
behind the command wins over the same option in front of it.
-/

namespace AdminPanel

open CommandLine (Given CommandName)

/-- What the panel can be told to do. -/
inductive Command where
  | login (account : Option String)
  | logout
  | status
  | routes
  | openPage (path : String) (json : Bool)
  | setStatus (status : Message.RunningStatus) (reason : String)
  | ban (userId : UInt64) (seconds : Option UInt64) (reason : Option String)
  | unban (userId : UInt64)
  | deleteAccount (userId : UInt64)
  | announce (title content : String)
  | getConfig
  | setConfig (file : String)
  deriving Repr, DecidableEq

/-- The command of a name with what has been given for it; none if something required is not
given. -/
def Command.ofGiven? (g : Given) : CommandName → Option Command
  | .login => some (.login (g .account))
  | .logout => some .logout
  | .status => some .status
  | .routes => some .routes
  | .openPage => do return .openPage (← g .path) (g .json).isSome
  | .setStatus => do return .setStatus (← g .status) ((g .reason).getD "")
  | .ban => do return .ban (← g .userId) (g .seconds) (g .reason)
  | .unban => do return .unban (← g .userId)
  | .deleteAccount => do return .deleteAccount (← g .userId)
  | .announce => do return .announce (← g .title) (← g .content)
  | .getConfig => some .getConfig
  | .setConfig => do return .setConfig (← g .file)

/-- The options that steer every command. -/
structure Flags where
  baseAddress : Option String := none
  backend : Option Backend := none
  logDir : Option String := none
  deriving Repr, DecidableEq

namespace Flags

/-- The options that have been given. -/
def ofGiven (g : Given) : Flags := ⟨g .baseAddress, g .storage, g .logDir⟩

/-- Options that stand over others: each of them wins if it is given, and leaves the others alone. -/
def orElse (inner outer : Flags) : Flags where
  baseAddress := inner.baseAddress <|> outer.baseAddress
  backend := inner.backend <|> outer.backend
  logDir := inner.logDir <|> outer.logDir

/-- Settings with the options in their place. What is not given stays as it is; no option takes a setting
away. -/
def apply (f : Flags) (s : Settings) : Settings :=
  { s with
    baseAddress := f.baseAddress.getD s.baseAddress
    backend := f.backend.getD s.backend
    logDir := f.logDir <|> s.logDir }

end Flags

namespace CommandLine

/-- A command and what steers it. -/
structure Invocation where
  command : Command
  flags : Flags := {}
  deriving Repr, DecidableEq

/-- What asking for help on the words ends with: at most one word, which must be a verb. -/
def helpOn : List String → Fault
  | [] => .helpWanted
  | [word] => if (Verb.ofWord? word).isSome then .helpWanted else .unknownCommand
  | _ => .unknownCommand

/-- Reads what stands behind a command, to its end. What is required is asked for only then, so that a mistake
in a word comes before an argument that is missing. -/
def readBehind (c : CommandName) (words : List String) : Except Fault Invocation := do
  let (s, _) ← (Scan.start c.level).run c.level words
  let s ← s.settle
  match Command.ofGiven? s.given c with
  | none => .error .missingArgument
  | some command => .ok ⟨command, .ofGiven s.given⟩

/-- Reads a command line: what stands in front of the command, the command, and what stands behind it. Without
a command it is refused, whether anything else has been given or not. -/
def parse (words : List String) : Except Fault Invocation := do
  match ← (Scan.start .top).run .top words with
  | (top, none) => do
    let flags := Flags.ofGiven (← top.settle).given
    .error (if flags = {} then .nothingGiven else .missingCommand)
  | (_, some (.help, words)) => .error (helpOn words)
  | (top, some (.command c, words)) => do
    -- what stands last in front of the command is settled after all that stands behind it
    let inner ← readBehind c words
    let outer := Flags.ofGiven (← top.settle).given
    return { inner with flags := inner.flags.orElse outer }

end CommandLine

end AdminPanel
