import AdminPanel.Wire.Encode

/-!
# Reading messages

Records may come in any order and any number: of a scalar the last counts, messages are merged,
lists grow. A packed list may also come as single numbers. Records of unknown fields are checked
and skipped. What nests, nests at most a hundred deep.
-/

namespace AdminPanel.Wire

open Decimal (Binary64)

/-- A decoder takes bytes from the front. -/
abbrev Decoder := StateT (List UInt8) (Except Fault)

namespace Decoder

def fail (p : Problem) : Decoder α := fun _ => .error ⟨p, []⟩

/-- The number of bytes left. -/
def remaining : Decoder Nat := fun bs => .ok (bs.length, bs)

/-- A variable-length integer. -/
def varint : Decoder Nat := fun bs =>
  match readVarint bs with
  | some r => .ok r
  | none => .error ⟨.invalidVarint, []⟩

/-- A given number of bytes. -/
def take (n : Nat) : Decoder (List UInt8) := fun bs =>
  if bs.length < n then .error ⟨.underflow, []⟩ else .ok (bs.take n, bs.drop n)

/-- The key of a record: the number of its field and the layout of its payload. -/
def key : Decoder (Nat × WireType) := do
  let k ← varint
  if 0x100000000 ≤ k then fail (.invalidKey k)
  match WireType.ofCode? (k % 8) with
  | none => fail (.invalidWireType (k % 8))
  | some w => if k / 8 = 0 then fail .zeroNumber else pure (k / 8, w)

/-- The payload must be laid out as the field wants it. -/
def expect (expected found : WireType) : Decoder Unit :=
  if found = expected then pure () else fail (.wrongWireType found expected)

/-- Reads on while more than `stop` bytes are left; each turn takes at least one, so that their number bounds
the turns. -/
def untilLeft (stop : Nat) (step : α → Decoder α) : Nat → α → Decoder α
  | 0, a => pure a
  | fuel + 1, a => do
    if (← remaining) ≤ stop then pure a
    else untilLeft stop step fuel (← step a)

/-- Reads a counted stretch of bytes step by step. The steps must end where the stretch ends. -/
def counted (step : α → Decoder α) (a : α) : Decoder α := do
  let n ← varint
  let left ← remaining
  if left < n then fail .underflow
  let result ← untilLeft (left - n) step n a
  if (← remaining) = left - n then pure result else fail .overrun

/-- Skips the records of a group up to its end. -/
def groupEnd (skip : Nat → WireType → Decoder Unit) (number : Nat) : Nat → Decoder Unit
  | 0 => fail .invalidVarint
  | fuel + 1 => do
    let (inner, w) ← key
    if w = .endGroup then
      if inner = number then pure () else fail .unexpectedEndGroup
    else
      skip inner w
      groupEnd skip number fuel

/-- Skips the payload of a record that belongs to no field. It is read as its layout says, so that what cannot
be read is a fault even there. -/
def skip : Nat → Nat → WireType → Decoder Unit
  | 0, _, _ => fail .tooDeep
  | depth + 1, number, w =>
    match w with
    | .varint => do
      let _ ← varint
    | .fixed64 => do
      let _ ← take 8
    | .fixed32 => do
      let _ ← take 4
    | .delimited => do
      let n ← varint
      let _ ← take n
    | .startGroup => do groupEnd (skip depth) number ((← remaining) + 1)
    | .endGroup => fail .unexpectedEndGroup

/-- A text: counted bytes in UTF-8. -/
def text : Decoder String := do
  let n ← varint
  let bs ← take n
  match String.fromUTF8? ⟨bs.toArray⟩ with
  | some s => pure s
  | none => fail .notUtf8

end Decoder

/-- Reads the payload of a scalar. Numbers are cut to the width of the field. -/
def Scalar.read : Scalar β → Decoder β
  | .uint64 => do return UInt64.ofNat (← Decoder.varint)
  | .uint32 => do return UInt32.ofNat (← Decoder.varint)
  | .int64 => do return (UInt64.ofNat (← Decoder.varint)).toInt64
  | .int32 => do return (UInt32.ofNat (← Decoder.varint)).toInt32
  | .bool => do return (← Decoder.varint) != 0
  | .double => do return ⟨UInt64.ofNat (ofLittleEndian (← Decoder.take 8))⟩
  | .string => Decoder.text
  | .enumeration _ => do return (UInt32.ofNat (← Decoder.varint)).toInt32

/-- Reads a scalar whose payload is laid out as `w`. -/
def Scalar.readAs (s : Scalar β) (w : WireType) : Decoder β := do
  Decoder.expect s.wireType w
  s.read

/-- Names the field that a fault arose in. -/
def Decoder.inside (owner field : String) (d : Decoder α) : Decoder α := fun bs =>
  match d bs with
  | .ok r => .ok r
  | .error e => .error (e.inside owner field)

/-- Whether records of a number belong to a field. -/
def Kind.owns (number : Nat) : Kind β → Nat → Bool
  | .choice alternatives, n => alternatives.any fun a => a.number == n
  | _, n => number == n

mutual

/-- Takes a record of the field into its value. -/
def Kind.merge {β : Type} (depth number : Nat) (w : WireType) : Kind β → β → Decoder β
  | .scalar s, _ => s.readAs w
  | .optional s, _ => do return some (← s.readAs w)
  | .packed, vs =>
    -- the list may come in one record, or number by number
    if w = .delimited then
      Decoder.counted (fun vs => do return vs ++ [UInt64.ofNat (← Decoder.varint)]) vs
    else do return vs ++ [← Scalar.uint64.readAs w]
  | .message layout, v => do
    Decoder.expect .delimited w
    -- what has been read of the message before stays, unless it is read again
    return some (← layout.merge depth (v.getD layout.empty))
  | .repeated layout, vs => do
    Decoder.expect .delimited w
    return vs ++ [← layout.merge depth layout.empty]
  | .choice alternatives, v =>
    match alternatives.find? fun a => a.number == number with
    | some a => do return some (a.wrap (← Scalar.string.readAs w))
    | none => pure v

/-- Takes a record into the field it belongs to, or skips it. -/
def Fields.merge {α : Type} (owner : String) (depth number : Nat) (w : WireType) :
    Fields α → α → Decoder α
  | .nil, m => do
    Decoder.skip depth number w
    pure m
  | .cons n name kind get set rest, m =>
    if kind.owns n number then
      Decoder.inside owner name do return set (← kind.merge depth number w (get m)) m
    else rest.merge owner depth number w m

/-- Takes a counted message into a value, one level down. -/
def Layout.merge {α : Type} (depth : Nat) : Layout α → α → Decoder α
  | .mk name _ fields, m =>
    match depth with
    | 0 => Decoder.fail .tooDeep
    | depth + 1 =>
      Decoder.counted (fun m => do
        let (number, w) ← Decoder.key
        fields.merge name depth number w m) m

end

/-- How deep messages and groups may nest. -/
def maxDepth : Nat := 100

/-- Takes one record of a message. -/
def Layout.record (layout : Layout α) (m : α) : Decoder α := do
  let (number, w) ← Decoder.key
  layout.fields.merge layout.name maxDepth number w m

/-- Reads a message from all of the bytes. -/
def Layout.read (layout : Layout α) (bs : List UInt8) : Except Fault α :=
  match Decoder.untilLeft 0 layout.record bs.length layout.empty bs with
  | .ok (m, _) => .ok m
  | .error e => .error e

end AdminPanel.Wire
