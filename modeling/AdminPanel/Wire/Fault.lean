/-!
# Records and the faults of reading them

A message is a sequence of records. The key of a record gives the number of its field and how the
payload is laid out.
-/

namespace AdminPanel.Wire

/-- The layout of a payload. -/
inductive WireType where
  | varint
  | fixed64
  | delimited
  | startGroup
  | endGroup
  | fixed32
  deriving Repr, DecidableEq

namespace WireType

/-- The number of a layout in a key. -/
def code : WireType → Nat
  | .varint => 0
  | .fixed64 => 1
  | .delimited => 2
  | .startGroup => 3
  | .endGroup => 4
  | .fixed32 => 5

/-- The layout of a number. -/
def ofCode? : Nat → Option WireType
  | 0 => some .varint
  | 1 => some .fixed64
  | 2 => some .delimited
  | 3 => some .startGroup
  | 4 => some .endGroup
  | 5 => some .fixed32
  | _ => none

/-- The name of a layout in messages. -/
def name : WireType → String
  | .varint => "Varint"
  | .fixed64 => "SixtyFourBit"
  | .delimited => "LengthDelimited"
  | .startGroup => "StartGroup"
  | .endGroup => "EndGroup"
  | .fixed32 => "ThirtyTwoBit"

@[simp] theorem ofCode?_code (w : WireType) : ofCode? w.code = some w := by
  cases w <;> rfl

end WireType

/-- What is wrong with the bytes. -/
inductive Problem where
  | invalidVarint
  | invalidKey (key : Nat)
  | invalidWireType (code : Nat)
  | zeroNumber
  | wrongWireType (found expected : WireType)
  | underflow
  | overrun
  | unexpectedEndGroup
  | tooDeep
  | notUtf8
  deriving Repr, DecidableEq

def Problem.message : Problem → String
  | .invalidVarint => "invalid varint"
  | .invalidKey key => s!"invalid key value: {key}"
  | .invalidWireType code => s!"invalid wire type value: {code}"
  | .zeroNumber => "invalid tag value: 0"
  | .wrongWireType found expected =>
    s!"invalid wire type: {found.name} (expected {expected.name})"
  | .underflow => "buffer underflow"
  | .overrun => "delimited length exceeded"
  | .unexpectedEndGroup => "unexpected end group tag"
  | .tooDeep => "recursion limit reached"
  | .notUtf8 => "invalid string value: data is not UTF-8 encoded"

/-- A problem, and the fields around it as pairs of message and field, the innermost first. -/
structure Fault where
  problem : Problem
  path : List (String × String) := []
  deriving Repr, DecidableEq

def Fault.message (f : Fault) : String :=
  "failed to decode Protobuf message: "
    ++ String.join (f.path.map fun (owner, field) => owner ++ "." ++ field ++ ": ")
    ++ f.problem.message

/-- The fault seen from a field around it. -/
def Fault.inside (owner field : String) (f : Fault) : Fault :=
  ⟨f.problem, f.path ++ [(owner, field)]⟩

end AdminPanel.Wire
