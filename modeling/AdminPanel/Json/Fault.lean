import AdminPanel.Json.Printer
import AdminPanel.Json.Cursor
import AdminPanel.Text.Quoted

/-!
# The words for faults

Each problem has one sentence, followed by the place where it was noticed.
-/

namespace AdminPanel.Json

/-- What was found, in words. -/
def Found.describe : Found → String
  | .null => "null"
  | .bool b => s!"boolean `{b}`"
  | .number (.integer i) => s!"integer `{i}`"
  | .number (.real x) => "floating point `" ++ (Number.real x).print ++ "`"
  | .string s => "string " ++ Text.quoted s
  | .array => "sequence"
  | .object => "map"

/-- Names between backticks, as a list of choices. -/
def choices (names : List String) : String :=
  ", ".intercalate (names.map fun n => "`" ++ n ++ "`")

def Problem.message : Problem → String
  | .endInList => "EOF while parsing a list"
  | .endInObject => "EOF while parsing an object"
  | .endInString => "EOF while parsing a string"
  | .endInValue => "EOF while parsing a value"
  | .expectedColon => "expected `:`"
  | .expectedListEnd => "expected `,` or `]`"
  | .expectedObjectEnd => "expected `,` or `\x7d`"
  | .expectedIdent => "expected ident"
  | .expectedValue => "expected value"
  | .invalidEscape => "invalid escape"
  | .invalidNumber => "invalid number"
  | .numberOutOfRange => "number out of range"
  | .loneSurrogate => "lone leading surrogate in hex escape"
  | .unfinishedSurrogate => "unexpected end of hex escape"
  | .controlCharacter => "control character (\\u0000-\\u001F) found while parsing a string"
  | .keyNotString => "key must be a string"
  | .trailingComma => "trailing comma"
  | .trailingCharacters => "trailing characters"
  | .tooDeep => "recursion limit exceeded"
  | .mismatch found expected => s!"invalid type: {found.describe}, expected {expected}"
  | .unknownVariant name known =>
    "unknown variant `" ++ name ++ "`, expected one of " ++ choices known
  | .duplicateMember name => "duplicate field `" ++ name ++ "`"
  | .refused reason => reason

/-- The problem and its place in words. -/
def Fault.message (f : Fault) : String :=
  s!"{f.problem.message} at line {f.position.line} column {f.position.column}"

end AdminPanel.Json
