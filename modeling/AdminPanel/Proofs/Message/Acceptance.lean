import AdminPanel.Proofs.Message.RoundTrip
import AdminPanel.Proofs.Wire.Reading

/-!
# What messages are read from

Every message that is exchanged is read from exactly the bytes that split into records it takes, and
each of its fields is made of the records of this field.

* **`declared_covered`** — every message is made of its fields.
* **`declared_read`** — which bytes are read, what they give, and what does not matter.
-/

namespace AdminPanel.Message

open Wire

/-- **All messages are covered by their fields.** -/
theorem declared_covered : ∀ d ∈ declared, d.layout.Covered := by
  simp only [declared, List.forall_mem_cons]
  -- messages, fields and kinds by what they are made of; that the fields are all, by unfolding
  repeat' first
    | exact List.forall_mem_nil _
    | constructor
    | (intros; rfl)

/-- **Reading, for every message and all bytes.** A message is read exactly from bytes that split into
records it takes, and is what they mean. A field is the same in two messages if its own records are,
whatever the other records are. Two neighbouring records that do not belong to the same field may
change places, and an unknown record may be there or not, with any bytes behind them. -/
theorem declared_read (d : Declared) (mem : d ∈ declared) :
    (∀ bs, (∃ m, d.layout.read bs = .ok m) ↔ ∃ rs, Splits bs rs ∧ d.layout.Accepts rs) ∧
    (∀ {bs rs}, Splits bs rs → d.layout.Accepts rs →
      ∀ m, d.layout.read bs = .ok m ↔ d.layout.Means rs m) ∧
    (∀ {bs bs' rs rs' m m'}, Splits bs rs → Splits bs' rs' → d.layout.read bs = .ok m →
      d.layout.read bs' = .ok m' → d.layout.fields.Local rs rs' m m') ∧
    (∀ {before here there front r r'}, Splits before front → Splits here [r] → Splits there [r'] →
      d.layout.fields.Separate r r' → ∀ behind m,
        d.layout.read (before ++ (here ++ (there ++ behind))) = .ok m ↔
        d.layout.read (before ++ (there ++ (here ++ behind))) = .ok m) ∧
    (∀ {before here front r}, Splits before front → Splits here [r] →
      r.number ∉ d.layout.fields.numbers → r.Within maxDepth → ∀ behind m,
        d.layout.read (before ++ (here ++ behind)) = .ok m ↔
        d.layout.read (before ++ behind) = .ok m) := by
  -- all parts hold of any layout with these two properties; the list of declared ones is used here only
  have lawful := declared_lawful d mem
  have covered := declared_covered d mem
  refine ⟨?accepted, ?meant, ?own, ?swapped, ?without⟩
  case accepted =>
    intro bs
    constructor
    · rintro ⟨m, read⟩
      obtain ⟨rs, splits, accepts, -⟩ := Layout.read_sound lawful read
      exact ⟨rs, splits, accepts⟩
    · rintro ⟨rs, splits, accepts⟩
      exact Layout.read_of_accepts splits accepts
  case meant =>
    intro bs rs splits accepts m
    rw [Layout.read_eq_ok_iff lawful covered]
    constructor
    · rintro ⟨rs', splits', -, means⟩
      rw [splits.unique splits']
      exact means
    · intro means
      exact ⟨rs, splits, accepts, means⟩
  case own =>
    intro bs bs' rs rs' m m' splits splits' read read'
    exact Layout.read_local lawful covered splits splits' read read'
  case swapped =>
    intro before here there front r r' splits one other separate behind m
    exact ⟨Layout.read_swap lawful covered splits one other separate,
      Layout.read_swap lawful covered splits other one separate.symm⟩
  case without =>
    intro before here front r splits one unknown within behind m
    exact Layout.read_without lawful covered splits one unknown within

/-- A role whose permissions come alone and packed, one of them padded, with an empty group that it
does not know: its number may stand in front of a permission or behind it. -/
theorem declared_read_role :
    ServerRole.layout.read ([0x08, 0x09] ++ ([0x20, 0x01] ++
      [0x22, 0x03, 0x03, 0x82, 0x00, 0x2b, 0x2c])) = .ok { id := 9, permissions := [1, 3, 2] } := by
  have declaredRole : (⟨_, ServerRole.layout⟩ : Declared) ∈ declared := by simp [declared]
  have permission : Splits ([0x20] ++ [0x01]) [.varint 4 1] :=
    .one ⟨by decide, by decide, .last (by decide), by decide, by decide⟩
      (.varint ⟨.last (by decide), by decide, by decide⟩)
  have number : Splits ([0x08] ++ [0x09]) [.varint 1 9] :=
    .one ⟨by decide, by decide, .last (by decide), by decide, by decide⟩
      (.varint ⟨.last (by decide), by decide, by decide⟩)
  have separate : ServerRole.layout.fields.Separate (.varint 4 1) (.varint 1 9) := by
    simp [ServerRole.layout, Layout.fields, Fields.Separate, Kind.owns, Record.number]
  have swapped := (declared_read _ declaredRole).2.2.2.1 .nil permission number separate
    [0x22, 0x03, 0x03, 0x82, 0x00, 0x2b, 0x2c] { id := 9, permissions := [1, 3, 2] }
  exact swapped.mp (by rfl)

end AdminPanel.Message
