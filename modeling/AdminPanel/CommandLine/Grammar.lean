import AdminPanel.Message.Server
import AdminPanel.Settings.Backend

/-!
# The grammar of the command line

The commands, the arguments that each of them takes, and the values that arguments stand for. An
argument is an option, which is given by its name anywhere behind the command, or it has a place
of its own. Three options steer every command, and may also stand in front of it.
-/

namespace AdminPanel.CommandLine

/-! ## Arguments -/

/-- What can be given. -/
inductive Argument where
  | baseAddress
  | storage
  | logDir
  | json
  | seconds
  | reason
  | account
  | path
  | status
  | userId
  | title
  | content
  | file
  deriving Repr, DecidableEq

namespace Argument

/-- What an argument stands for. -/
abbrev Value : Argument → Type
  | .baseAddress => String
  | .storage => Backend
  | .logDir => String
  | .json => Unit
  | .seconds => UInt64
  | .reason => String
  | .account => String
  | .path => String
  | .status => Message.RunningStatus
  | .userId => UInt64
  | .title => String
  | .content => String
  | .file => String

/-- The name by which an option is given; other arguments have a place instead. -/
def optionName : Argument → Option String
  | .baseAddress => some "base-address"
  | .storage => some "storage"
  | .logDir => some "log-dir"
  | .json => some "json"
  | .seconds => some "seconds"
  | .reason => some "reason"
  | .account | .path | .status | .userId | .title | .content | .file => none

/-- The word that stands for the value in messages. -/
def placeholder : Argument → String
  | .baseAddress => "BASE_ADDRESS"
  | .storage => "STORAGE"
  | .logDir => "LOG_DIR"
  | .json => "JSON"
  | .seconds => "SECONDS"
  | .reason => "REASON"
  | .account => "ACCOUNT"
  | .path => "PATH"
  | .status => "STATUS"
  | .userId => "USER_ID"
  | .title => "TITLE"
  | .content => "CONTENT"
  | .file => "FILE"

/-- An argument without a value: that it is given says it all. -/
def isFlag : Argument → Bool
  | .json => true
  | _ => false

/-- An argument as messages name it: an option by its name, with a word for the value if it takes one, and
any other by that word. -/
def shown (a : Argument) : String :=
  match a.optionName with
  | some name =>
    if a.isFlag then "--" ++ name else "--" ++ name ++ " <" ++ a.placeholder ++ ">"
  | none => "<" ++ a.placeholder ++ ">"

end Argument

/-! ## Commands -/

/-- The commands by name. -/
inductive CommandName where
  | login
  | logout
  | status
  | routes
  | openPage
  | setStatus
  | ban
  | unban
  | deleteAccount
  | announce
  | getConfig
  | setConfig
  deriving Repr, DecidableEq

namespace CommandName

/-- The commands in the order in which they are listed. -/
def all : List CommandName :=
  [login, logout, status, routes, openPage, setStatus, ban, unban, deleteAccount, announce,
    getConfig, setConfig]

def word : CommandName → String
  | .login => "login"
  | .logout => "logout"
  | .status => "status"
  | .routes => "routes"
  | .openPage => "open"
  | .setStatus => "set-status"
  | .ban => "ban"
  | .unban => "unban"
  | .deleteAccount => "delete-account"
  | .announce => "announce"
  | .getConfig => "get-config"
  | .setConfig => "set-config"

def ofWord? (s : String) : Option CommandName :=
  all.find? fun c => c.word == s

@[simp] theorem ofWord?_word (c : CommandName) : ofWord? c.word = some c := by
  cases c <;> decide

/-- The options that a command has of its own. -/
def options : CommandName → List Argument
  | .openPage => [.json]
  | .setStatus => [.reason]
  | .ban => [.seconds, .reason]
  | .login | .logout | .status | .routes | .unban | .deleteAccount | .announce | .getConfig
  | .setConfig => []

/-- The arguments that have a place, in their order. -/
def places : CommandName → List Argument
  | .login => [.account]
  | .openPage => [.path]
  | .setStatus => [.status]
  | .ban | .unban | .deleteAccount => [.userId]
  | .announce => [.title, .content]
  | .setConfig => [.file]
  | .logout | .status | .routes | .getConfig => []

end CommandName

/-- The options that steer every command. -/
def commonOptions : List Argument := [.baseAddress, .storage, .logDir]

/-! ## Levels -/

/-- What may stand on a stretch of the command line: in front of the command, or behind it. -/
structure Level where
  options : List Argument
  places : List Argument := []
  /-- Whether a command is still to come. -/
  isTop : Bool := false

/-- In front of the command. -/
def Level.top : Level := ⟨commonOptions, [], true⟩

/-- Behind a command: its own options, and those that steer every command. -/
def CommandName.level (c : CommandName) : Level := ⟨commonOptions ++ c.options, c.places, false⟩

/-- The option of a name, if it may stand here. Names are not abbreviated. -/
def Level.option? (l : Level) (name : String) : Option Argument :=
  l.options.find? fun a => a.optionName == some name

/-- The words that end the stretch in front of the command. -/
inductive Verb where
  | help
  | command (name : CommandName)
  deriving Repr, DecidableEq

def Verb.ofWord? (s : String) : Option Verb :=
  if s = "help" then some .help else (CommandName.ofWord? s).map .command

/-- The verb of a word, where one may stand. -/
def Level.verb? (l : Level) (s : String) : Option Verb :=
  if l.isTop then Verb.ofWord? s else none

end AdminPanel.CommandLine
