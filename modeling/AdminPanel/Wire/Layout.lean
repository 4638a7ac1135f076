import AdminPanel.Decimal.Binary64

/-!
# Layouts of messages

A layout says how the values of a type are sent: the fields with their numbers, in ascending order,
each with its kind and with the way to read and to replace it in a value. Everything that is done
with messages (writing, reading, listing) follows the layout.
-/

namespace AdminPanel.Wire

open Decimal (Binary64)

/-- Field types that are sent as one payload without records inside. An enumeration is open: any
32-bit number is a value, some have names. -/
inductive Scalar : Type → Type where
  | uint64 : Scalar UInt64
  | uint32 : Scalar UInt32
  | int64 : Scalar Int64
  | int32 : Scalar Int32
  | bool : Scalar Bool
  | double : Scalar Binary64
  | string : Scalar String
  | enumeration (names : List (Int32 × String)) : Scalar Int32

/-- One of several texts that exclude each other, each under a field number of its own. -/
structure Alternative (γ : Type) where
  number : Nat
  name : String
  wrap : String → γ
  unwrap : γ → Option String

mutual

/-- What a field holds. -/
inductive Kind : Type → Type 1 where
  /-- A scalar; the default is not sent. -/
  | scalar {β : Type} (s : Scalar β) : Kind β
  /-- A scalar that may be absent; the default is sent. -/
  | optional {β : Type} (s : Scalar β) : Kind (Option β)
  /-- A list of numbers in one record. -/
  | packed : Kind (List UInt64)
  /-- A message that may be absent. -/
  | message {β : Type} (layout : Layout β) : Kind (Option β)
  /-- A list of messages, each in a record. -/
  | repeated {β : Type} (layout : Layout β) : Kind (List β)
  /-- At most one of several texts. -/
  | choice {γ : Type} (alternatives : List (Alternative γ)) : Kind (Option γ)

/-- The fields of a message, each with how it is read from a value and put into one. -/
inductive Fields : Type → Type 1 where
  | nil {α : Type} : Fields α
  | cons {α β : Type} (number : Nat) (name : String) (kind : Kind β) (get : α → β)
      (set : β → α → α) (rest : Fields α) : Fields α

/-- A message: its name, the value without any field set, and its fields. -/
inductive Layout : Type → Type 1 where
  | mk {α : Type} (name : String) (empty : α) (fields : Fields α) : Layout α

end

def Layout.name : Layout α → String
  | .mk name _ _ => name

/-- The value without any field set. -/
def Layout.empty : Layout α → α
  | .mk _ empty _ => empty

def Layout.fields : Layout α → Fields α
  | .mk _ _ fields => fields

end AdminPanel.Wire
