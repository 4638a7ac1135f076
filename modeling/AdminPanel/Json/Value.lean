import AdminPanel.Decimal.Binary64

/-!
# JSON values

Whole numbers that a signed or an unsigned 64-bit word can hold are kept exactly; every other
number is a binary64 one. An object keeps its members in order. A document that is read has them in
ascending order of their names, by code point, and no name twice: `Members.insert` keeps it so.
-/

namespace AdminPanel.Json

open Decimal (Binary64)

/-- A number as a document holds it. -/
inductive Number where
  | integer (value : Int)
  | real (value : Binary64)
  deriving Repr, DecidableEq, Inhabited

/-- A JSON value. -/
inductive Value where
  | null
  | bool (value : Bool)
  | number (value : Number)
  | string (value : String)
  | array (items : List Value)
  | object (members : List (String × Value))
  deriving Repr, Inhabited

namespace Members

variable {α : Type}

/-- Puts a member in its place; a member of the same name gives way. -/
def insert (name : String) (value : α) : List (String × α) → List (String × α)
  | [] => [(name, value)]
  | (other, held) :: rest =>
    if name = other then (name, value) :: rest
    else if name < other then (name, value) :: (other, held) :: rest
    else (other, held) :: insert name value rest

def find? (name : String) : List (String × α) → Option α
  | [] => none
  | (other, held) :: rest => if name = other then some held else find? name rest

/-- All members but those of the name. -/
def erase (name : String) (members : List (String × α)) : List (String × α) :=
  members.filter fun m => m.1 ≠ name

@[simp] theorem find?_insert_self (name : String) (value : α) (ms : List (String × α)) :
    find? name (insert name value ms) = some value := by
  induction ms with
  | nil => simp [insert, find?]
  | cons m rest ih =>
    obtain ⟨other, held⟩ := m
    simp only [insert]
    split
    · simp [find?]
    · split <;> simp_all [find?]

theorem find?_insert_of_ne {name other : String} (h : name ≠ other) (value : α)
    (ms : List (String × α)) : find? name (insert other value ms) = find? name ms := by
  induction ms with
  | nil => simp [insert, find?, h]
  | cons m rest ih =>
    obtain ⟨third, held⟩ := m
    simp only [insert]
    split
    · next e => subst e; simp [find?, h]
    · split <;> simp_all [find?]

end Members

namespace Value

def int (i : Int) : Value := .number (.integer i)

/-- A natural number. -/
def nat (n : Nat) : Value := int n

/-- A binary64 number; the document format has no word for the others, so they are absent. -/
def real (x : Binary64) : Value :=
  if x.isFinite then .number (.real x) else .null

/-- A value that may be absent. -/
def option (f : α → Value) : Option α → Value
  | none => .null
  | some a => f a

def isObject : Value → Bool
  | .object _ => true
  | _ => false

end Value

end AdminPanel.Json
