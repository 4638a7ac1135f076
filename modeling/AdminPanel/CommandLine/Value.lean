import AdminPanel.CommandLine.Fault

/-!
# Reading values

Each argument reads the text that is given for it.
-/

namespace AdminPanel.CommandLine

/-! ## Numbers -/

/-- Why a text is no number of 64 bits. -/
inductive NumberFault where
  | empty
  | invalidDigit
  | tooLarge
  deriving Repr, DecidableEq

def NumberFault.message : NumberFault → String
  | .empty => "cannot parse integer from empty string"
  | .invalidDigit => "invalid digit found in string"
  | .tooLarge => "number too large to fit in target type"

/-- Reads digits behind a number. The first character that is no digit, or that makes the number
too large, decides. -/
def digitsFrom (n : Nat) : List Char → Except NumberFault Nat
  | [] => .ok n
  | c :: cs =>
    if c.isDigit then
      let m := 10 * n + (c.toNat - 48)
      if m < 0x10000000000000000 then digitsFrom m cs else .error .tooLarge
    else .error .invalidDigit

/-- Reads a number; a plus sign may stand in front of it. -/
def readNumber (s : String) : Except NumberFault UInt64 :=
  match s.toList with
  | [] => .error .empty
  | ['+'] => .error .invalidDigit
  | '+' :: cs => (digitsFrom 0 cs).map UInt64.ofNat
  | cs => (digitsFrom 0 cs).map UInt64.ofNat

/-! ## Other values -/

/-- The running states that can be asked for. -/
def statusWords : List (String × Message.RunningStatus) :=
  [("normal", .normal), ("maintaining", .maintaining)]

def readAny (s : String) : Except ValueFault String := .ok s

/-- A path: any text but the empty one. -/
def readPath (s : String) : Except ValueFault String :=
  if s.isEmpty then .error .invalid else .ok s

/-- A number of 64 bits without a sign, such as a user or a count of seconds. -/
def readCount (s : String) : Except ValueFault UInt64 :=
  (readNumber s).mapError fun e => .refused s e.message

def readBackend (s : String) : Except ValueFault Backend :=
  (Backend.parse s).mapError fun e => .refused s e

/-- A running state by its exact word. -/
def readStatus (s : String) : Except ValueFault Message.RunningStatus :=
  match statusWords.lookup s with
  | some status => .ok status
  | none => .error .invalid

/-- Reads the text that is given for an argument. -/
def Argument.read : (a : Argument) → String → Except ValueFault a.Value
  | .baseAddress => readAny
  | .storage => readBackend
  | .logDir => readPath
  | .json => fun _ => .ok ()
  | .seconds => readCount
  | .reason => readAny
  | .account => readAny
  | .path => readAny
  | .status => readStatus
  | .userId => readCount
  | .title => readAny
  | .content => readAny
  | .file => readPath

end AdminPanel.CommandLine
