import AdminPanel.Proofs.Wire.Accepting

/-!
# What a message is read from

Reading a message succeeds exactly if its bytes split into records that are all taken, and gives
what these records mean (`Layout.read_eq_ok_iff`). Hence neighbours of different fields may change
places (`Layout.read_swap`), and unknown records may come or be missing (`Layout.read_without`),
with any bytes behind them.
-/

namespace AdminPanel.Wire

variable {α : Type}

theorem Layout.record_eq_step (layout : Layout α) :
    layout.record = layout.fields.step layout.name maxDepth := rfl

theorem Layout.read_sound {layout : Layout α} {depth : Nat} (lawful : layout.Lawful depth)
    {bs : List UInt8} {m : α} (h : layout.read bs = .ok m) :
    ∃ rs, Splits bs rs ∧ layout.Accepts rs ∧ layout.Means rs m := by
  cases lawful with
  | @mk _ _ name empty fields h' blank whole distinct inRange =>
    have sound : fields.Sound := Fields.merge_sound h' distinct
    have start : fields.Given maxDepth [] [] empty :=
      ⟨[], .nil, fun r none => absurd none List.not_mem_nil, blank.means⟩
    rw [Layout.read, Layout.record_eq_step] at h
    split at h
    · next m' rest loop =>
      cases h
      obtain ⟨taken, rfl, ⟨part, splits, takes, means⟩, ended⟩ :=
        untilLeft_sound (P := fields.Given maxDepth []) sound.step start loop
      -- nothing is left behind what was taken
      have nothing : rest = [] := by
        rw [List.length_append] at ended
        exact List.eq_nil_of_length_eq_zero (by omega)
      rw [nothing, List.append_nil]
      exact ⟨part, splits, takes, means⟩
    · cases h

theorem Layout.read_of_accepts {layout : Layout α} {rs : List Record} {bs : List UInt8}
    (splits : Splits bs rs) (accepts : layout.Accepts rs) : ∃ m, layout.read bs = .ok m := by
  obtain ⟨m, steps⟩ := Fields.steps_of_takes layout.name
    (Fields.decodes_of_takes layout.fields) splits accepts layout.empty
  have taken := untilLeft_of_steps steps [] (le_refl bs.length)
  rw [List.append_nil, List.length_nil] at taken
  refine ⟨m, ?_⟩
  rw [Layout.read, Layout.record_eq_step, taken]

/-- **Reading succeeds exactly on records that are taken, and gives what they mean.** -/
theorem Layout.read_eq_ok_iff {layout : Layout α} {depth : Nat} (lawful : layout.Lawful depth)
    (covered : layout.Covered) {bs : List UInt8} {m : α} :
    layout.read bs = .ok m ↔ ∃ rs, Splits bs rs ∧ layout.Accepts rs ∧ layout.Means rs m := by
  refine ⟨Layout.read_sound lawful, ?_⟩
  rintro ⟨rs, splits, accepts, means⟩
  obtain ⟨m', read⟩ := Layout.read_of_accepts splits accepts
  obtain ⟨rs', splits', -, means'⟩ := Layout.read_sound lawful read
  rw [← splits.unique splits'] at means'
  rw [read, means'.unique covered means]

/-! ### A field depends on its own records only -/

theorem Layout.read_local {layout : Layout α} {depth : Nat} (lawful : layout.Lawful depth)
    (covered : layout.Covered) {bs bs' : List UInt8} {rs rs' : List Record} {m m' : α}
    (splits : Splits bs rs) (splits' : Splits bs' rs') (read : layout.read bs = .ok m)
    (read' : layout.read bs' = .ok m') : layout.fields.Local rs rs' m m' := by
  obtain ⟨_, same, -, means⟩ := Layout.read_sound lawful read
  obtain ⟨_, same', -, means'⟩ := Layout.read_sound lawful read'
  rw [← splits.unique same] at means
  rw [← splits'.unique same'] at means'
  cases covered with
  | mk fieldsCovered whole => exact Fields.Means.locally fieldsCovered means means'

/-! ### Records that may be moved or left out -/

theorem Fields.Separate.symm {r r' : Record} : {fields : Fields α} → fields.Separate r r' →
    fields.Separate r' r
  | .nil, _ => trivial
  | .cons .., separate => ⟨fun both => separate.1 both.symm, Fields.Separate.symm separate.2⟩

theorem Fields.takes_unknown {depth : Nat} {r : Record} : (fields : Fields α) →
    r.number ∉ fields.numbers → (fields.Takes depth r ↔ r.Within depth)
  | .nil, _ => Iff.rfl
  | .cons number name kind get set rest, unknown => by
    have foreign : ¬ kind.owns number r.number = true := by
      rw [kind.owns_iff]
      exact fun mine => unknown (List.mem_append_left _ mine)
    rw [Fields.Takes, if_neg foreign]
    exact takes_unknown rest fun mine => unknown (List.mem_append_right _ mine)

section Moving

variable {layout : Layout α} {depth : Nat} {front : List Record} {r r' : Record}
  {before here there behind : List UInt8} {m : α}

theorem Layout.Means.congr {rs rs' : List Record} (alike : layout.fields.Alike rs rs')
    (means : layout.Means rs m) : layout.Means rs' m := by
  cases layout with
  | mk name empty fields => exact (fields.means_congr alike m).mp means

theorem Layout.read_swap (lawful : layout.Lawful depth) (covered : layout.Covered)
    (splits : Splits before front) (one : Splits here [r]) (other : Splits there [r'])
    (separate : layout.fields.Separate r r')
    (h : layout.read (before ++ (here ++ (there ++ behind))) = .ok m) :
    layout.read (before ++ (there ++ (here ++ behind))) = .ok m := by
  obtain ⟨_, all, accepts, means⟩ := Layout.read_sound lawful h
  obtain ⟨_, rfl, fromHere⟩ := splits.of_append all
  obtain ⟨_, rfl, fromThere⟩ := one.of_append fromHere
  obtain ⟨back, rfl, fromBehind⟩ := other.of_append fromThere
  refine (Layout.read_eq_ok_iff lawful covered).mpr
    ⟨front ++ ([r'] ++ ([r] ++ back)), splits.append (other.append (one.append fromBehind)), ?_, ?_⟩
  · intro s mem
    refine accepts s ?_
    simp only [List.mem_append, List.mem_singleton] at mem ⊢
    tauto
  · exact means.congr (Fields.alike_swap front back _ separate)

theorem Layout.read_without (lawful : layout.Lawful depth) (covered : layout.Covered)
    (splits : Splits before front) (one : Splits here [r]) (unknown : r.number ∉ layout.fields.numbers)
    (within : r.Within maxDepth) :
    layout.read (before ++ (here ++ behind)) = .ok m ↔ layout.read (before ++ behind) = .ok m := by
  have takes : layout.fields.Takes maxDepth r := (Fields.takes_unknown _ unknown).mpr within
  rw [Layout.read_eq_ok_iff lawful covered, Layout.read_eq_ok_iff lawful covered]
  constructor
  · rintro ⟨_, all, accepts, means⟩
    -- what is split is split in the same way on either side, and the record in between counts for nothing
    obtain ⟨_, rfl, fromHere⟩ := splits.of_append all
    obtain ⟨back, rfl, fromBehind⟩ := one.of_append fromHere
    refine ⟨front ++ back, splits.append fromBehind, fun s mem => accepts s ?_, ?_⟩
    · simp only [List.mem_append] at mem ⊢
      tauto
    · exact means.congr (Fields.alike_unknown front back _ unknown)
  · rintro ⟨_, all, accepts, means⟩
    obtain ⟨back, rfl, fromBehind⟩ := splits.of_append all
    refine ⟨front ++ ([r] ++ back), splits.append (one.append fromBehind), ?_, ?_⟩
    · intro s mem
      simp only [List.mem_append, List.mem_singleton] at mem
      obtain front_mem | rfl | back_mem := mem
      · exact accepts s (List.mem_append_left _ front_mem)
      · exact takes
      · exact accepts s (List.mem_append_right _ back_mem)
    · exact means.congr (Fields.Alike.symm (Fields.alike_unknown front back _ unknown))

end Moving

end AdminPanel.Wire
