import AdminPanel.Proofs.Wire.Lawful

/-!
# Signs of zeros

All that a message loses on the wire is the sign of a zero. What comes back is `unsigned`; here it
is shown that this is little: a message differs from what comes back of it only if it holds a
negative zero, and either is written as the same bytes.

* **`Layout.Lawful.write_unsigned`** — a message is written like what comes back of it.
* **`Layout.Lawful.unsigned_eq_iff`** — a message comes back as it is if it holds no negative zero,
  and only then.
-/

namespace AdminPanel

namespace Decimal.Binary64

def negativeZero : Binary64 := ⟨0x8000000000000000⟩

/-- The bits of a zero are all clear but for the sign. -/
theorem eq_of_isZero {x : Binary64} (h : x.isZero = true) : x = .negativeZero ∨ x = .zero := by
  obtain ⟨bits⟩ := x
  have magnitude : bits.toNat % 0x8000000000000000 = 0 := beq_iff_eq.mp h
  have bound := bits.toNat_lt
  have cases : bits.toNat = 0x8000000000000000 ∨ bits.toNat = 0 := by omega
  exact cases.imp (fun h => congrArg mk (UInt64.toNat_inj.mp h))
    fun h => congrArg mk (UInt64.toNat_inj.mp h)

theorem unsigned_negativeZero : negativeZero.unsigned = .zero := rfl

/-- **Negative zero is the only number that loses its sign.** All others stay as they are, down to
the bits of a NaN. -/
theorem unsigned_eq_iff (x : Binary64) : x.unsigned = x ↔ x ≠ .negativeZero := by
  constructor
  · rintro same rfl
    rw [unsigned_negativeZero] at same
    exact absurd same (by decide)
  · intro positive
    rw [unsigned]
    split
    case isTrue zero => exact ((eq_of_isZero zero).resolve_left positive).symm
    case isFalse => rfl

end Decimal.Binary64

namespace Wire

variable {α β : Type}

/-! ## Scalars

A scalar that is left out is one that comes back as the default, and any other comes back as it is.
-/

/-- What is left out comes back as the default. -/
theorem Scalar.unsigned_of_isDefault {s : Scalar β} {v : β} (h : s.isDefault v = true) :
    s.unsigned v = s.default := by
  cases s with
  | uint64 | uint32 | int64 | int32 | enumeration => exact beq_iff_eq.mp h
  | bool => exact (Bool.not_eq_eq_eq_not ..).mp h
  | string => exact String.isEmpty_iff.mp h
  | double =>
    have zero : v.isZero = true := h
    show (if v.isZero then Decimal.Binary64.zero else v) = _
    rw [if_pos zero]
    rfl

/-- What is not left out comes back as it is. -/
theorem Scalar.unsigned_of_not_isDefault {s : Scalar β} {v : β} (h : s.isDefault v = false) :
    s.unsigned v = v := by
  cases s with
  | double =>
    have nonzero : v.isZero = false := h
    show (if v.isZero then Decimal.Binary64.zero else v) = _
    rw [nonzero]
    rfl
  | _ => rfl

/-- What comes back of a scalar is left out like the scalar, and written like it. -/
theorem Scalar.write_unsigned (s : Scalar β) (number : Nat) (v : β) :
    (Kind.scalar s).write number (s.unsigned v) = (Kind.scalar s).write number v := by
  cases h : s.isDefault v with
  | true =>
    have default : s.isDefault s.default = true := by cases s <;> rfl
    rw [unsigned_of_isDefault h, Kind.write, Kind.write, h, default, if_pos rfl, if_pos rfl]
  | false => rw [unsigned_of_not_isDefault h]

/-! ## Messages -/

/-- What is done with other fields does not touch a field that is apart from them. -/
theorem Fields.Apart.get_unsignedOnto {get : α → β} {set : β → α → α} {fields : Fields α}
    (apart : fields.Apart get set) (m base : α) : get (fields.unsignedOnto m base) = get base := by
  induction apart generalizing base with
  | nil => rfl
  | cons _ _ untouched ih => exact (ih _).trans (untouched _ base)

mutual

theorem Kind.Lawful.write_unsigned {β : Type} {depth : Nat} {kind : Kind β} :
    kind.Lawful depth →
    ∀ (number : Nat) (v : β), kind.write number (kind.unsigned v) = kind.write number v
  | .scalar s, number, v => s.write_unsigned number v
  | .optional _, _, _ => rfl
  | .packed, _, _ => rfl
  | .message _, _, none => rfl
  | @Kind.Lawful.message _ _ layout lawful, number, some v => by
    show key number .delimited ++ sized (layout.write (layout.unsigned v)) = _
    rw [lawful.write_unsigned v]
    rfl
  | @Kind.Lawful.repeated _ _ layout lawful, number, vs => by
    show (vs.map layout.unsigned).flatMap _ = vs.flatMap _
    rw [List.flatMap_map]
    simp only [lawful.write_unsigned]
  | .choice _ _, _, _ => rfl

theorem Fields.Lawful.write_unsignedOnto {α : Type} {depth : Nat} {fields : Fields α} :
    fields.Lawful depth → ∀ m base : α, fields.write (fields.unsignedOnto m base) = fields.write m
  | .nil, _, _ => rfl
  | .cons here others apart access, m, base => by
    rw [Fields.write, Fields.write, Fields.unsignedOnto, apart.get_unsignedOnto, access.get_set,
      here.write_unsigned, others.write_unsignedOnto]

/-- **A message is written like what comes back of it.** Recursion along the layout. -/
theorem Layout.Lawful.write_unsigned {α : Type} {depth : Nat} {layout : Layout α} :
    layout.Lawful depth → ∀ m : α, layout.write (layout.unsigned m) = layout.write m
  | .mk lawful _ _ _ _, m => lawful.write_unsignedOnto m m

end

/-! ## Messages without negative zeros -/

def Scalar.Signless : Scalar β → β → Prop
  | .double, v => v ≠ .negativeZero
  | _, _ => True

mutual

/-- No scalar that is left out at zero is a negative zero. -/
def Kind.Signless {β : Type} : Kind β → β → Prop
  | .scalar s, v => s.Signless v
  | .message layout, v => ∀ m ∈ v, layout.Signless m
  | .repeated layout, vs => ∀ m ∈ vs, layout.Signless m
  | _, _ => True

def Fields.Signless {α : Type} : Fields α → α → Prop
  | .nil, _ => True
  | .cons _ _ kind get _ rest, m => kind.Signless (get m) ∧ rest.Signless m

/-- The message holds no negative zero, neither itself nor in the messages inside. -/
def Layout.Signless {α : Type} : Layout α → α → Prop
  | .mk _ _ fields, m => fields.Signless m

end

theorem Scalar.unsigned_eq_iff (s : Scalar β) (v : β) : s.unsigned v = v ↔ s.Signless v := by
  cases s with
  | double => exact v.unsigned_eq_iff
  | _ => exact iff_of_true rfl trivial

mutual

theorem Kind.Lawful.unsigned_eq_iff {β : Type} {depth : Nat} {kind : Kind β} :
    kind.Lawful depth → ∀ v : β, kind.unsigned v = v ↔ kind.Signless v
  | .scalar s, v => s.unsigned_eq_iff v
  | .optional _, _ => iff_of_true rfl trivial
  | .packed, _ => iff_of_true rfl trivial
  | .message _, none => iff_of_true rfl (fun _ none => nomatch none)
  | @Kind.Lawful.message _ _ layout lawful, some m => by
    show some (layout.unsigned m) = some m ↔ ∀ m' ∈ some m, layout.Signless m'
    rw [Option.some_inj, lawful.unsigned_eq_iff m]
    simp only [Option.mem_some_iff, forall_eq']
  | @Kind.Lawful.repeated _ _ layout lawful, vs => by
    calc vs.map layout.unsigned = vs
      _ ↔ vs.map layout.unsigned = vs.map id := by rw [List.map_id]
      _ ↔ ∀ m ∈ vs, layout.unsigned m = m := List.map_inj_left
      _ ↔ ∀ m ∈ vs, layout.Signless m := by simp only [lawful.unsigned_eq_iff]
  | .choice _ _, _ => iff_of_true rfl trivial

theorem Fields.Lawful.unsignedOnto_eq_iff {α : Type} {depth : Nat} {fields : Fields α} :
    fields.Lawful depth → ∀ m : α, fields.unsignedOnto m m = m ↔ fields.Signless m
  | .nil, _ => iff_of_true rfl trivial
  | @Fields.Lawful.cons _ _ _ _ _ kind get set rest here others apart access, m => by
    show rest.unsignedOnto m (set (kind.unsigned (get m)) m) = m ↔ _ ∧ _
    constructor
    · intro same
      -- the other fields do not touch this one, so that it is the same already
      have kept : kind.unsigned (get m) = get m := by
        rw [← access.get_set (kind.unsigned (get m)) m, ← apart.get_unsignedOnto m, same]
      rw [kept, access.set_get] at same
      exact ⟨(here.unsigned_eq_iff (get m)).mp kept, (others.unsignedOnto_eq_iff m).mp same⟩
    · intro ⟨signless, restSignless⟩
      rw [(here.unsigned_eq_iff (get m)).mpr signless, access.set_get]
      exact (others.unsignedOnto_eq_iff m).mpr restSignless

/-- **A message comes back as it is if it holds no negative zero**, and only then. Recursion along
the layout. -/
theorem Layout.Lawful.unsigned_eq_iff {α : Type} {depth : Nat} {layout : Layout α} :
    layout.Lawful depth → ∀ m : α, layout.unsigned m = m ↔ layout.Signless m
  | .mk lawful _ _ _ _, m => lawful.unsignedOnto_eq_iff m

end

end Wire

end AdminPanel
