import AdminPanel.Wire.Decode

/-!
# Layouts that keep their word

What a layout must satisfy so that reading undoes writing, and what comes back of a value. The laws
speak of the fields alone: each is read as it was set and independent of the others, together they
are the whole value, and no two share a number.

* **`Layout.Lawful depth`** — the laws, for a layout that nests at most so deep. Every obligation
  about a field holds by unfolding, so that the proof for a message lists its kinds and nothing
  else.
* **`Layout.unsigned`** — a value with its negative zeros replaced: a number of either zero is not
  written, and comes back as the default.
-/

namespace AdminPanel

def Decimal.Binary64.unsigned (x : Decimal.Binary64) : Decimal.Binary64 :=
  if x.isZero then .zero else x

namespace Wire

variable {α β γ : Type}

/-! ## What comes back -/

/-- What comes back of a scalar: of a number, the number without the sign if it is zero. -/
def Scalar.unsigned : Scalar β → β → β
  | .double, v => v.unsigned
  | _, v => v

mutual

/-- What comes back of the value of a field. -/
def Kind.unsigned {β : Type} : Kind β → β → β
  | .scalar s, v => s.unsigned v
  | .optional _, v => v
  | .packed, vs => vs
  | .message layout, v => v.map layout.unsigned
  | .repeated layout, vs => vs.map layout.unsigned
  | .choice _, v => v

/-- What comes back of the fields of a value, put into another one. -/
def Fields.unsignedOnto {α : Type} : Fields α → α → α → α
  | .nil, _, base => base
  | .cons _ _ kind get set rest, m, base => rest.unsignedOnto m (set (kind.unsigned (get m)) base)

/-- What comes back of a message: the same, but for the sign of zeros. -/
def Layout.unsigned {α : Type} : Layout α → α → α
  | .mk _ _ fields, m => fields.unsignedOnto m m

end

/-! ## Laws -/

/-- The value of a field of which no record has come. -/
def Kind.empty : Kind β → β
  | .scalar s => s.default
  | .optional _ => none
  | .packed => []
  | .message _ => none
  | .repeated _ => []
  | .choice _ => none

/-- The numbers under which records of a field come. -/
def Kind.numbers (number : Nat) : Kind β → List Nat
  | .choice alternatives => alternatives.map (·.number)
  | _ => [number]

def Fields.numbers : Fields α → List Nat
  | .nil => []
  | .cons number _ kind _ _ rest => kind.numbers number ++ rest.numbers

/-- A field is read as it was last set, and setting it to what it is changes nothing. -/
structure Access (get : α → β) (set : β → α → α) : Prop where
  get_set (v : β) (m : α) : get (set v m) = v
  set_set (v w : β) (m : α) : set v (set w m) = set v m
  set_get (m : α) : set (get m) m = m

/-- A field does not touch the fields of a message, nor they it. -/
inductive Fields.Apart (get : α → β) (set : β → α → α) : Fields α → Prop
  | nil : Apart get set .nil
  | cons {δ : Type} {number : Nat} {name : String} {kind : Kind δ} {get' : α → δ}
      {set' : δ → α → α} {rest : Fields α} (others : Apart get set rest)
      (unseen : ∀ v m, get' (set v m) = get' m)
      (untouched : ∀ v m, get (set' v m) = get m) :
      Apart get set (.cons number name kind get' set' rest)

/-- A value in which no field has a record. -/
inductive Fields.Blank (m : α) : Fields α → Prop
  | nil : Blank m .nil
  | cons {β : Type} {number : Nat} {name : String} {kind : Kind β} {get : α → β}
      {set : β → α → α} {rest : Fields α} (others : Blank m rest)
      (here : get m = kind.empty) :
      Blank m (.cons number name kind get set rest)

mutual

/-- A kind of field whose messages are lawful and nest at most so deep. Of a choice, every value is
one of the alternatives, and a text that was found in a value is wrapped as that value again. -/
inductive Kind.Lawful : {β : Type} → Nat → Kind β → Prop
  | scalar {β : Type} {depth : Nat} (s : Scalar β) : Kind.Lawful depth (.scalar s)
  | optional {β : Type} {depth : Nat} (s : Scalar β) : Kind.Lawful depth (.optional s)
  | packed {depth : Nat} : Kind.Lawful depth .packed
  | message {β : Type} {depth : Nat} {layout : Layout β} (h : Layout.Lawful depth layout) :
      Kind.Lawful depth (.message layout)
  | repeated {β : Type} {depth : Nat} {layout : Layout β} (h : Layout.Lawful depth layout) :
      Kind.Lawful depth (.repeated layout)
  | choice {γ : Type} {depth : Nat} {alternatives : List (Alternative γ)}
      (taken : ∀ v, ∃ a ∈ alternatives, (a.unwrap v).isSome)
      (wrapped : ∀ a ∈ alternatives, ∀ v text, a.unwrap v = some text → a.wrap text = v) :
      Kind.Lawful depth (.choice alternatives)

/-- Fields that are read as they were set, each apart from those that follow. -/
inductive Fields.Lawful : {α : Type} → Nat → Fields α → Prop
  | nil {α : Type} {depth : Nat} : Fields.Lawful depth (.nil : Fields α)
  | cons {α β : Type} {depth number : Nat} {name : String} {kind : Kind β} {get : α → β}
      {set : β → α → α} {rest : Fields α} (here : Kind.Lawful depth kind)
      (others : Fields.Lawful depth rest)
      (apart : rest.Apart get set) (access : Access get set) :
      Fields.Lawful depth (.cons number name kind get set rest)

/-- A message whose fields are lawful, start from nothing, are all there is to a value, and have
numbers of their own. The fields are one level below the message. -/
inductive Layout.Lawful : {α : Type} → Nat → Layout α → Prop
  | mk {α : Type} {depth : Nat} {name : String} {empty : α} {fields : Fields α}
      (h : Fields.Lawful depth fields) (blank : fields.Blank empty)
      (whole : ∀ m base base', fields.unsignedOnto m base = fields.unsignedOnto m base')
      (distinct : fields.numbers.Nodup) (inRange : ∀ n ∈ fields.numbers, 0 < n ∧ n < 0x20000000) :
      Layout.Lawful (depth + 1) (.mk name empty fields)

end

end Wire

end AdminPanel
