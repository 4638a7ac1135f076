import AdminPanel.Wire.Layout
import AdminPanel.Wire.Varint
import AdminPanel.Wire.Fault

/-!
# Writing messages

Fields are written in the order of their numbers. A scalar at its default is left out, and so is a
number of either zero; what may be absent is written whenever it is present. Negative numbers of 32
bits are widened to 64 first.
-/

namespace AdminPanel.Wire

open Decimal (Binary64)

/-- The key of a record: the number of its field, and how the payload is laid out. -/
def key (number : Nat) (w : WireType) : List UInt8 :=
  varint (number * 8 + w.code)

/-- Bytes with their count in front. -/
def sized (bs : List UInt8) : List UInt8 :=
  varint bs.length ++ bs

namespace Scalar

/-- How the payload is laid out. -/
def wireType : Scalar β → WireType
  | .double => .fixed64
  | .string => .delimited
  | _ => .varint

/-- The value of a field that is not sent. -/
def default : Scalar β → β
  | .uint64 => 0
  | .uint32 => 0
  | .int64 => 0
  | .int32 => 0
  | .bool => false
  | .double => .zero
  | .string => ""
  | .enumeration _ => 0

/-- Whether the value is left out. Both zeros are. -/
def isDefault : Scalar β → β → Bool
  | .uint64, v => v == 0
  | .uint32, v => v == 0
  | .int64, v => v == 0
  | .int32, v => v == 0
  | .bool, v => !v
  | .double, v => v.isZero
  | .string, v => v.isEmpty
  | .enumeration _, v => v == 0

/-- The bytes of a value. Numbers with a sign go out as the words of 64 bits that they wrap around to. -/
def payload : Scalar β → β → List UInt8
  | .uint64, v => varint v.toNat
  | .uint32, v => varint v.toNat
  | .int64, v => varint v.toUInt64.toNat
  | .int32, v => varint v.toInt64.toUInt64.toNat
  | .bool, v => varint (if v then 1 else 0)
  | .double, v => littleEndian v.bits.toNat 8
  | .string, v => sized v.toUTF8.toList
  | .enumeration _, v => varint v.toInt64.toUInt64.toNat

/-- A value with the key of its field in front. -/
def record (s : Scalar β) (number : Nat) (v : β) : List UInt8 :=
  key number s.wireType ++ s.payload v

end Scalar

/-- The record of the alternative that a choice has taken. -/
def writeChoice (v : γ) : List (Alternative γ) → List UInt8
  | [] => []
  | a :: rest =>
    match a.unwrap v with
    | some text => Scalar.string.record a.number text
    | none => writeChoice v rest

mutual

/-- The records of one field. -/
def Kind.write {β : Type} (number : Nat) : Kind β → β → List UInt8
  | .scalar s, v => if s.isDefault v then [] else s.record number v
  | .optional _, none => []
  | .optional s, some v => s.record number v
  | .packed, vs =>
    if vs.isEmpty then []
    else key number .delimited ++ sized (vs.flatMap fun v => varint v.toNat)
  | .message _, none => []
  | .message layout, some v => key number .delimited ++ sized (layout.write v)
  | .repeated layout, vs => vs.flatMap fun v => key number .delimited ++ sized (layout.write v)
  | .choice _, none => []
  | .choice alternatives, some v => writeChoice v alternatives

def Fields.write {α : Type} : Fields α → α → List UInt8
  | .nil, _ => []
  | .cons number _ kind get _ rest, m => kind.write number (get m) ++ rest.write m

/-- The bytes of a message. -/
def Layout.write {α : Type} : Layout α → α → List UInt8
  | .mk _ _ fields, m => fields.write m

end

end AdminPanel.Wire
