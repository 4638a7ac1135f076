import AdminPanel.Proofs.Wire.Records
import AdminPanel.Proofs.Wire.RoundTrip
import Mathlib.Data.List.Forall2

/-!
# What records mean

Which records a message takes, and what it is made of when it has taken them, said without a
decoder. A record is taken or refused on its own, and every field is made of its own records only:
of a scalar, a text or a choice the last one counts, a list has what all of them bring, and the
records of a message inside hold, one after the other, the records of this message.

## The architecture

* **`Kind.Takes`, `Fields.Takes`** — whether a record can be taken: one of a field by the layout and
  the content of its payload, an unknown one by its nesting.
* **`Kind.Means`, `Layout.Means`** — the value that records give to a field, and to a message.
* **`Fields.means_congr`** — records that are the same to every field mean the same.
* **`Fields.Means.locally`, `Layout.Means.unique`** — a field depends on its own records only, and so
  records mean one value only.
-/

namespace AdminPanel.Wire

variable {α β γ : Type}

/-! ## Payloads -/

/-- The value that a record gives to a scalar, if its payload is laid out as the scalar wants it.
Numbers are cut to the width of the field. -/
def Scalar.value? : Scalar β → Record → Option β
  | .uint64, .varint _ n => some (UInt64.ofNat n)
  | .uint32, .varint _ n => some (UInt32.ofNat n)
  | .int64, .varint _ n => some (UInt64.ofNat n).toInt64
  | .int32, .varint _ n => some (UInt32.ofNat n).toInt32
  | .bool, .varint _ n => some (n != 0)
  | .enumeration _, .varint _ n => some (UInt32.ofNat n).toInt32
  | .double, .fixed64 _ bs => some ⟨UInt64.ofNat (ofLittleEndian bs)⟩
  | .string, .delimited _ bs => String.fromUTF8? ⟨bs.toArray⟩
  | _, _ => none

/-- The bytes split completely into numbers. -/
inductive Packed : List UInt8 → List UInt64 → Prop
  | nil : Packed [] []
  | cons {bs bs' : List UInt8} {n : Nat} {vs : List UInt64} (h : IsVarint bs n)
      (others : Packed bs' vs) : Packed (bs ++ bs') (UInt64.ofNat n :: vs)

/-- The numbers that a record brings to a list: a single one, or a packed stretch. -/
def Record.Brings : Record → List UInt64 → Prop
  | .varint _ n, vs => vs = [UInt64.ofNat n]
  | .delimited _ bs, vs => Packed bs vs
  | _, _ => False

/-- The records that a record holds as the bytes of a message. -/
def Record.Holds : Record → List Record → Prop
  | .delimited _ bs, rs => Splits bs rs
  | _, _ => False

/-- The alternative of a choice that a record names, with its text. -/
def chosen? (alternatives : List (Alternative γ)) (r : Record) : Option γ :=
  (alternatives.find? fun a => a.number == r.number).bind fun a =>
    (Scalar.string.value? r).map a.wrap

/-! ## Which records are taken -/

mutual

/-- Whether a field takes a record of its own. -/
def Kind.Takes {β : Type} (depth : Nat) : Kind β → Record → Prop
  | .scalar s, r => (s.value? r).isSome
  | .optional s, r => (s.value? r).isSome
  | .packed, r => ∃ vs, r.Brings vs
  | .message layout, r => layout.Takes depth r
  | .repeated layout, r => layout.Takes depth r
  | .choice _, r => (Scalar.string.value? r).isSome

/-- Whether a message takes a record: the field that owns it does, or no field owns it and groups in
it nest no deeper than they may. -/
def Fields.Takes {α : Type} (depth : Nat) : Fields α → Record → Prop
  | .nil, r => r.Within depth
  | .cons number _ kind _ _ rest, r =>
    if kind.owns number r.number then kind.Takes depth r else rest.Takes depth r

/-- Whether a record holds a message, one level down, all of whose records are taken. -/
def Layout.Takes {α : Type} (depth : Nat) : Layout α → Record → Prop
  | .mk _ _ fields, r => ∃ below, depth = below + 1 ∧
      ∃ rs, r.Holds rs ∧ ∀ r' ∈ rs, fields.Takes below r'

end

/-- Whether all records are taken. -/
def Layout.Accepts (layout : Layout α) (rs : List Record) : Prop :=
  ∀ r ∈ rs, layout.fields.Takes maxDepth r

/-! ## What they mean -/

/-- The records of a field among all that came. -/
def Kind.own (number : Nat) (kind : Kind β) (rs : List Record) : List Record :=
  rs.filter fun r => kind.owns number r.number

mutual

/-- The value of a field with these records, all of them its own. -/
def Kind.Means {β : Type} : Kind β → List Record → β → Prop
  | .scalar s, rs, v => v = (rs.getLast?.bind s.value?).getD s.default
  | .optional s, rs, v => v = rs.getLast?.bind s.value?
  | .packed, rs, vs => ∃ parts, List.Forall₂ Record.Brings rs parts ∧ vs = parts.flatten
  | .message _, rs, none => rs = []
  | .message layout, rs, some m =>
    rs ≠ [] ∧ ∃ parts, List.Forall₂ Record.Holds rs parts ∧ layout.Means parts.flatten m
  | .repeated layout, rs, ms =>
    List.Forall₂ (fun r m => ∃ part, r.Holds part ∧ layout.Means part m) rs ms
  | .choice alternatives, rs, v => v = rs.getLast?.bind (chosen? alternatives)

/-- The values of fields in a message with these records: each field by the records that it owns. -/
def Fields.Means {α : Type} : Fields α → List Record → α → Prop
  | .nil, _, _ => True
  | .cons number _ kind get _ rest, rs, m =>
    kind.Means (kind.own number rs) (get m) ∧ rest.Means rs m

/-- The message that these records make. -/
def Layout.Means {α : Type} : Layout α → List Record → α → Prop
  | .mk _ _ fields, rs, m => fields.Means rs m

end

/-! ### Without a record -/

theorem Kind.means_nil (kind : Kind β) : kind.Means [] kind.empty := by
  cases kind with
  | scalar | optional | choice | message => rfl
  | packed => exact ⟨[], .nil, rfl⟩
  | repeated => exact .nil

theorem Fields.Blank.means {m : α} {fields : Fields α} (blank : fields.Blank m) :
    fields.Means [] m := by
  induction blank with
  | nil => trivial
  | cons others here ih =>
    refine ⟨?_, ih⟩
    rw [here]
    exact Kind.means_nil _

/-! ## Only the records of a field count -/

section Own

variable {kind : Kind β} {number : Nat} {r : Record}

theorem Kind.own_append (rs rs' : List Record) :
    kind.own number (rs ++ rs') = kind.own number rs ++ kind.own number rs' :=
  List.filter_append rs rs'

theorem Kind.own_cons_mine (mine : kind.owns number r.number = true) (rs : List Record) :
    kind.own number (r :: rs) = r :: kind.own number rs :=
  List.filter_cons_of_pos mine

theorem Kind.own_cons_foreign (foreign : ¬ kind.owns number r.number = true) (rs : List Record) :
    kind.own number (r :: rs) = kind.own number rs :=
  List.filter_cons_of_neg foreign

end Own

/-- Two sequences of records that are the same to every field: each owns the same records in both, in
the same order. -/
def Fields.Alike : Fields α → List Record → List Record → Prop
  | .nil, _, _ => True
  | .cons number _ kind _ _ rest, rs, rs' =>
    kind.own number rs = kind.own number rs' ∧ rest.Alike rs rs'

theorem Fields.Alike.symm {rs rs' : List Record} : {fields : Fields α} → fields.Alike rs rs' →
    fields.Alike rs' rs
  | .nil, _ => trivial
  | .cons .., alike => ⟨alike.1.symm, Fields.Alike.symm alike.2⟩

/-- **Records that are the same to every field mean the same.** -/
theorem Fields.means_congr {rs rs' : List Record} :
    (fields : Fields α) → fields.Alike rs rs' → ∀ m : α, fields.Means rs m ↔ fields.Means rs' m
  | .nil, _, _ => Iff.rfl
  | .cons number name kind get set rest, alike, m => by
    obtain ⟨here, others⟩ := alike
    rw [Fields.Means, Fields.Means, here, means_congr rest others m]

/-- No field owns both records. -/
def Fields.Separate : Fields α → Record → Record → Prop
  | .nil, _, _ => True
  | .cons number _ kind _ _ rest, r, r' =>
    ¬ (kind.owns number r.number ∧ kind.owns number r'.number) ∧ rest.Separate r r'

/-- Neighbours that belong to different fields may change places. -/
theorem Fields.alike_swap {r r' : Record} (front back : List Record) :
    (fields : Fields α) → fields.Separate r r' →
    fields.Alike (front ++ r :: r' :: back) (front ++ r' :: r :: back)
  | .nil, _ => trivial
  | .cons number name kind get set rest, separate => by
    obtain ⟨here, others⟩ := separate
    refine ⟨?_, alike_swap front back rest others⟩
    rw [Kind.own_append, Kind.own_append]
    -- at most one of the two is kept
    by_cases mine : kind.owns number r.number = true
    · have foreign : ¬ kind.owns number r'.number = true := fun mine' => here ⟨mine, mine'⟩
      rw [Kind.own_cons_mine mine, Kind.own_cons_foreign foreign, Kind.own_cons_foreign foreign,
        Kind.own_cons_mine mine]
    · rw [Kind.own_cons_foreign mine]
      by_cases mine' : kind.owns number r'.number = true
      · rw [Kind.own_cons_mine mine', Kind.own_cons_mine mine', Kind.own_cons_foreign mine]
      · rw [Kind.own_cons_foreign mine', Kind.own_cons_foreign mine', Kind.own_cons_foreign mine]

/-- A record that no field owns may be left out. -/
theorem Fields.alike_unknown {r : Record} (front back : List Record) :
    (fields : Fields α) → r.number ∉ fields.numbers →
    fields.Alike (front ++ r :: back) (front ++ back)
  | .nil, _ => trivial
  | .cons number name kind get set rest, unknown => by
    have foreign : ¬ kind.owns number r.number = true := by
      rw [kind.owns_iff]
      exact fun mine => unknown (List.mem_append_left _ mine)
    refine ⟨?_, alike_unknown front back rest fun mine => unknown (List.mem_append_right _ mine)⟩
    rw [Kind.own_append, Kind.own_append, Kind.own_cons_foreign foreign]

/-! ## One value only -/

theorem Packed.unique {bs : List UInt8} {vs vs' : List UInt64} (h : Packed bs vs)
    (h' : Packed bs vs') : vs = vs' := by
  induction h generalizing vs' with
  | nil =>
    generalize none : ([] : List UInt8) = bs at h'
    cases h' with
    | nil => rfl
    | cons isVarint others =>
      obtain ⟨nothing, -⟩ := List.append_eq_nil_iff.mp none.symm
      exact absurd nothing isVarint.ne_nil
  | @cons bs others n vs isVarint _ ih =>
    generalize whole : bs ++ others = all at h'
    cases h' with
    | nil =>
      obtain ⟨nothing, -⟩ := List.append_eq_nil_iff.mp whole
      exact absurd nothing isVarint.ne_nil
    | cons isVarint' others' =>
      obtain ⟨rfl, -, rfl⟩ := isVarint.decodes.unique isVarint'.decodes whole
      rw [ih others']

theorem Record.brings_unique : Relator.RightUnique Record.Brings := by
  intro r vs vs' h h'
  cases r with
  | varint number n => exact h.trans (Eq.symm h')
  | delimited number bs => exact Packed.unique h h'
  | fixed64 | group | fixed32 => exact absurd h id

theorem Record.holds_unique : Relator.RightUnique Record.Holds := by
  intro r rs rs' h h'
  cases r with
  | delimited number bs => exact Splits.unique h h'
  | varint | fixed64 | group | fixed32 => exact absurd h id

/-- A field whose own records are the same has the same value in both messages, and so each of them,
whatever the records of the others are. -/
def Fields.Local : Fields α → List Record → List Record → α → α → Prop
  | .nil, _, _, _, _ => True
  | .cons number _ kind get _ rest, rs, rs', m, m' =>
    (kind.own number rs = kind.own number rs' → get m = get m') ∧ rest.Local rs rs' m m'

/-- The fields of a value, put into another one. -/
def Fields.onto : Fields α → α → α → α
  | .nil, _, base => base
  | .cons _ _ _ get set rest, m, base => rest.onto m (set (get m) base)

theorem Fields.onto_of_local {rs : List Record} {m m' : α} :
    (fields : Fields α) → fields.Local rs rs m m' → ∀ base, fields.onto m base = fields.onto m' base
  | .nil, _, _ => rfl
  | .cons number name kind get set rest, here, base => by
    obtain ⟨same, others⟩ := here
    rw [Fields.onto, Fields.onto, same rfl, onto_of_local rest others]

mutual

/-- A kind of field whose messages are covered by their fields. -/
inductive Kind.Covered : {β : Type} → Kind β → Prop
  | scalar {β : Type} (s : Scalar β) : Kind.Covered (.scalar s)
  | optional {β : Type} (s : Scalar β) : Kind.Covered (.optional s)
  | packed : Kind.Covered .packed
  | message {β : Type} {layout : Layout β} (h : Layout.Covered layout) :
      Kind.Covered (.message layout)
  | repeated {β : Type} {layout : Layout β} (h : Layout.Covered layout) :
      Kind.Covered (.repeated layout)
  | choice {γ : Type} (alternatives : List (Alternative γ)) : Kind.Covered (.choice alternatives)

/-- Fields whose messages are covered by their fields. -/
inductive Fields.Covered : {α : Type} → Fields α → Prop
  | nil {α : Type} : Fields.Covered (.nil : Fields α)
  | cons {α β : Type} {number : Nat} {name : String} {kind : Kind β} {get : α → β}
      {set : β → α → α} {rest : Fields α} (here : Kind.Covered kind)
      (others : Fields.Covered rest) : Fields.Covered (.cons number name kind get set rest)

/-- A message that is covered by its fields: with all of them it is whole, whatever it was. -/
inductive Layout.Covered : {α : Type} → Layout α → Prop
  | mk {α : Type} {name : String} {empty : α} {fields : Fields α} (h : Fields.Covered fields)
      (whole : ∀ m base, fields.onto m base = m) : Layout.Covered (.mk name empty fields)

end

mutual

theorem Kind.Means.unique {β : Type} {kind : Kind β} : kind.Covered → ∀ {rs : List Record}
    {v v' : β}, kind.Means rs v → kind.Means rs v' → v = v'
  | .scalar _, _, _, _, h, h' => h.trans (Eq.symm h')
  | .optional _, _, _, _, h, h' => h.trans (Eq.symm h')
  | .packed, _, _, _, h, h' => by
    obtain ⟨parts, brings, same⟩ := h
    obtain ⟨parts', brings', same'⟩ := h'
    have unique : parts = parts' := List.right_unique_forall₂' Record.brings_unique brings brings'
    rw [same, same', unique]
  | .message _, _, none, none, _, _ => rfl
  | .message _, _, none, some _, h, h' => absurd h h'.1
  | .message _, _, some _, none, h, h' => absurd h' h.1
  | .message covered, _, some m, some m', h, h' => by
    obtain ⟨-, parts, holds, means⟩ := h
    obtain ⟨-, parts', holds', means'⟩ := h'
    have unique : parts = parts' := List.right_unique_forall₂' Record.holds_unique holds holds'
    rw [← unique] at means'
    rw [Layout.Means.unique covered means means']
  | .repeated covered, _, _, _, h, h' => by
    refine List.right_unique_forall₂' ?_ h h'
    rintro r m m' ⟨part, holds, means⟩ ⟨part', holds', means'⟩
    rw [Record.holds_unique holds holds'] at means
    exact Layout.Means.unique covered means means'
  | .choice _, _, _, _, h, h' => h.trans (Eq.symm h')

/-- **A field depends on its own records only.** -/
theorem Fields.Means.locally {α : Type} {fields : Fields α} : fields.Covered →
    ∀ {rs rs' : List Record} {m m' : α}, fields.Means rs m → fields.Means rs' m' →
    fields.Local rs rs' m m'
  | .nil, _, _, _, _, _, _ => trivial
  | .cons here others, rs, rs', m, m', h, h' => by
    obtain ⟨means, othersMean⟩ := h
    obtain ⟨means', othersMean'⟩ := h'
    refine ⟨fun same => ?_, Fields.Means.locally others othersMean othersMean'⟩
    rw [same] at means
    exact Kind.Means.unique here means means'

/-- **Records mean one value only.** Recursion along the layout. -/
theorem Layout.Means.unique {α : Type} {layout : Layout α} : layout.Covered →
    ∀ {rs : List Record} {m m' : α}, layout.Means rs m → layout.Means rs m' → m = m'
  | .mk covered whole, _, m, m', h, h' => by
    rw [← whole m m, ← whole m' m]
    exact Fields.onto_of_local _ (Fields.Means.locally covered h h') m

end

end AdminPanel.Wire
