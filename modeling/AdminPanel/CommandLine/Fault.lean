import AdminPanel.CommandLine.Grammar
import AdminPanel.Text.Plain

/-!
# Why a command line is refused

Asking for help or for the version ends the reading of a command line just as a mistake does.
-/

namespace AdminPanel.CommandLine

/-- Why a value cannot be read. -/
inductive ValueFault where
  /-- It is missing, empty where it must not be, or none of the values that there are. -/
  | invalid
  /-- It is refused for a reason. -/
  | refused (text reason : String)
  deriving Repr, DecidableEq

/-- Why a command line is refused. -/
inductive Fault where
  | helpWanted
  | versionWanted
  | nothingGiven
  | missingCommand
  | unknownCommand
  | unknownArgument
  | missingArgument
  | repeated (argument : Argument)
  | excessValue
  | value (argument : Argument) (fault : ValueFault)
  deriving Repr, DecidableEq

/-- The line that says why a value is refused. What would control a terminal is taken out of the value; the
reason quotes what it repeats. -/
def refusalLine (a : Argument) (text reason : String) : String :=
  "error: invalid value '" ++ Text.plain text ++ "' for '" ++ a.shown ++ "': " ++ reason

end AdminPanel.CommandLine
