import AdminPanel.Wire.Layout
import AdminPanel.Decimal.Notation
import AdminPanel.Text.Quoted

/-!
# Listings of messages

A message on one line: its name, then its fields by name. Choices come behind the other fields.
-/

namespace AdminPanel.Wire

def Scalar.list : Scalar β → β → String
  | .uint64, v => toString v.toNat
  | .uint32, v => toString v.toNat
  | .int64, v => toString v.toInt
  | .int32, v => toString v.toInt
  | .bool, v => if v then "true" else "false"
  | .double, v => Decimal.listing.write v
  | .string, v => Text.quoted v
  | .enumeration names, v =>
    match names.find? fun n => n.1 == v with
    | some (_, name) => name
    | none => toString v.toInt

/-- A value that may be absent. -/
def listOption (f : α → String) : Option α → String
  | none => "None"
  | some a => "Some(" ++ f a ++ ")"

/-- Values between square brackets. -/
def listItems (items : List String) : String :=
  "[" ++ ", ".intercalate items ++ "]"

/-- The alternative that a choice has taken. -/
def listChoice (v : γ) : List (Alternative γ) → String
  | [] => ""
  | a :: rest =>
    match a.unwrap v with
    | some text => a.name ++ "(" ++ Text.quoted text ++ ")"
    | none => listChoice v rest

def Kind.isChoice : Kind β → Bool
  | .choice _ => true
  | _ => false

/-- A name, and parts between braces if there are any. -/
def listStruct (name : String) (parts : List String) : String :=
  if parts.isEmpty then name
  else name ++ " \x7b " ++ ", ".intercalate parts ++ " \x7d"

mutual

def Kind.list {β : Type} : Kind β → β → String
  | .scalar s, v => s.list v
  | .optional s, v => listOption s.list v
  | .packed, vs => listItems (vs.map fun v => toString v.toNat)
  | .message layout, v => listOption (fun m => layout.list m) v
  | .repeated layout, vs => listItems (vs.map fun m => layout.list m)
  | .choice alternatives, v => listOption (fun g => listChoice g alternatives) v

/-- The fields that are choices, or those that are not. -/
def Fields.list {α : Type} (choices : Bool) : Fields α → α → List String
  | .nil, _ => []
  | .cons _ name kind get _ rest, m =>
    if kind.isChoice == choices then (name ++ ": " ++ kind.list (get m)) :: rest.list choices m
    else rest.list choices m

def Layout.list {α : Type} : Layout α → α → String
  | .mk name _ fields, m => listStruct name (fields.list false m ++ fields.list true m)

end

end AdminPanel.Wire
