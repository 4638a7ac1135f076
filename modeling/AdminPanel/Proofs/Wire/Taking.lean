import AdminPanel.Proofs.Wire.Records

/-!
# What decoders take

A decoder that succeeds has taken some bytes from the front; here it is said which. Counted
stretches are taken step by step (`counted_sound`, `decodes_counted_of`), the payload of an unknown
record is skipped as a whole (`skip_sound`, `decodes_skip`), the groups in it included.
-/

namespace AdminPanel.Wire

variable {α β : Type}

/-- The bytes are the payload of the record, which has the number and the layout of a key. -/
structure Bears (number : Nat) (w : WireType) (r : Record) (bs : List UInt8) : Prop where
  number : r.number = number
  wireType : r.wireType = w
  payload : r.Payload bs

/-! ## Stretches of bytes -/

theorem take_eq_ok_iff {n : Nat} {taken bs rest : List UInt8} :
    Decoder.take n bs = .ok (taken, rest) ↔ bs = taken ++ rest ∧ taken.length = n := by
  rw [Decoder.take]
  constructor
  · intro h
    split at h
    · cases h
    · cases h
      exact ⟨(List.take_append_drop n bs).symm, by rw [List.length_take]; omega⟩
  · rintro ⟨rfl, rfl⟩
    rw [if_neg (by simp), List.take_left, List.drop_left]

theorem remaining_eq_ok_iff {n : Nat} {bs rest : List UInt8} :
    Decoder.remaining bs = .ok (n, rest) ↔ n = bs.length ∧ rest = bs := by
  rw [Decoder.remaining]
  simp [eq_comm]

/-- A loop keeps what each of its steps keeps: a relation between the bytes taken so far and the
value. It ends where few enough bytes are left, or out of turns. -/
theorem untilLeft_sound {step : α → Decoder α} {P : List UInt8 → α → Prop}
    (keeps : ∀ {done a bs b rest}, P done a → step a bs = .ok (b, rest) →
      ∃ taken, taken ≠ [] ∧ bs = taken ++ rest ∧ P (done ++ taken) b)
    {stop fuel : Nat} {done bs rest : List UInt8} {a b : α} (start : P done a)
    (h : Decoder.untilLeft stop step fuel a bs = .ok (b, rest)) :
    ∃ taken, bs = taken ++ rest ∧ P (done ++ taken) b ∧
      (rest.length ≤ stop ∨ fuel ≤ taken.length) := by
  -- induction on the turns
  induction fuel generalizing done bs a with
  | zero =>
    cases h
    exact ⟨[], rfl, by rw [List.append_nil]; exact start, .inr (by simp)⟩
  | succ fuel ih =>
    rw [Decoder.untilLeft, bind_eq_ok_iff] at h
    obtain ⟨n, mid, counted, h⟩ := h
    obtain ⟨rfl, rfl⟩ := remaining_eq_ok_iff.mp counted
    split at h
    · next few =>
      cases h
      exact ⟨[], rfl, by rw [List.append_nil]; exact start, .inl few⟩
    · obtain ⟨c, mid, first, others⟩ := bind_eq_ok_iff.mp h
      obtain ⟨taken, some, rfl, kept⟩ := keeps start first
      have positive : 0 < taken.length := List.length_pos_iff.mpr some
      obtain ⟨taken', rfl, kept', ended⟩ := ih kept others
      refine ⟨taken ++ taken', (List.append_assoc ..).symm, ?_, ?_⟩
      · rw [← List.append_assoc]
        exact kept'
      · rw [List.length_append]
        omega

theorem counted_sound {step : α → Decoder α} {P : List UInt8 → α → Prop}
    (keeps : ∀ {done a bs b rest}, P done a → step a bs = .ok (b, rest) →
      ∃ taken, taken ≠ [] ∧ bs = taken ++ rest ∧ P (done ++ taken) b)
    {bs rest : List UInt8} {a b : α} (start : P [] a)
    (h : Decoder.counted step a bs = .ok (b, rest)) :
    ∃ count block, bs = count ++ block ++ rest ∧ IsVarint count block.length ∧ P block b := by
  obtain ⟨n, mid, read, checked⟩ := bind_eq_ok_iff.mp h
  obtain ⟨count, rfl, isVarint⟩ := varint_eq_ok_iff.mp read
  obtain ⟨left, mid', known, checked⟩ := bind_eq_ok_iff.mp checked
  obtain ⟨rfl, rfl⟩ := remaining_eq_ok_iff.mp known
  split at checked
  · obtain ⟨_, _, failed, -⟩ := bind_eq_ok_iff.mp checked
    exact absurd failed fail_ne_ok
  · next enough =>
    obtain ⟨c, mid, loop, ended⟩ := bind_eq_ok_iff.mp checked
    obtain ⟨block, rfl, kept, -⟩ := untilLeft_sound keeps start loop
    obtain ⟨left, mid', known, ended⟩ := bind_eq_ok_iff.mp ended
    obtain ⟨rfl, rfl⟩ := remaining_eq_ok_iff.mp known
    split at ended
    · next atEnd =>
      cases ended
      rw [List.length_append] at atEnd enough
      have length : block.length = n := by omega
      rw [← length] at isVarint
      exact ⟨count, block, (List.append_assoc ..).symm, isVarint, kept⟩
    · exact absurd ended fail_ne_ok

/-! ## Unknown records -/

section Skipping

variable {depth number : Nat}

/-- A group ends at the first key that ends it, and all before it are records. -/
theorem groupEnd_sound {fuel : Nat} {bs rest : List UInt8}
    (inner : ∀ {n w bs rest}, Decoder.skip depth n w bs = .ok ((), rest) →
      ∃ r taken, bs = taken ++ rest ∧ Bears n w r taken ∧ r.Within depth)
    (h : Decoder.groupEnd (Decoder.skip depth) number fuel bs = .ok ((), rest)) :
    ∃ rs content close, bs = content ++ close ++ rest ∧ Splits content rs ∧
      IsKey close number .endGroup ∧ ∀ r ∈ rs, r.Within depth := by
  -- induction on the turns
  induction fuel generalizing bs with
  | zero => exact absurd h fail_ne_ok
  | succ fuel ih =>
    rw [Decoder.groupEnd] at h
    obtain ⟨⟨n, w⟩, mid, read, checked⟩ := bind_eq_ok_iff.mp h
    obtain ⟨key, rfl, isKey⟩ := key_eq_ok_iff.mp read
    simp only at checked
    split at checked
    · next ends =>
      split at checked
      · next same =>
        cases checked
        rw [ends, same] at isKey
        exact ⟨[], [], key, rfl, .nil, isKey, by simp⟩
      · exact absurd checked fail_ne_ok
    · obtain ⟨⟨⟩, mid', skipped, others⟩ := bind_eq_ok_iff.mp checked
      obtain ⟨r, taken, rfl, bears, within⟩ := inner skipped
      obtain ⟨rs, content, close, rfl, splits, closed, all⟩ := ih others
      rw [← bears.number, ← bears.wireType] at isKey
      refine ⟨r :: rs, key ++ (taken ++ content), close, by simp, ?_, closed, ?_⟩
      · exact .cons isKey bears.payload splits
      · exact List.forall_mem_cons.mpr ⟨within, all⟩

/-- **What is skipped is a record**, and groups in it nest no deeper than they may. -/
theorem skip_sound {w : WireType} {bs rest : List UInt8}
    (h : Decoder.skip depth number w bs = .ok ((), rest)) :
    ∃ r taken, bs = taken ++ rest ∧ Bears number w r taken ∧ r.Within depth := by
  -- induction on the depth
  induction depth generalizing number w bs rest with
  | zero => exact absurd h fail_ne_ok
  | succ depth ih =>
    cases w with
    | varint =>
      obtain ⟨n, mid, read, same⟩ := bind_eq_ok_iff.mp h
      obtain ⟨taken, rfl, isVarint⟩ := varint_eq_ok_iff.mp read
      cases same
      exact ⟨.varint number n, taken, rfl, ⟨rfl, rfl, .varint isVarint⟩, trivial⟩
    | fixed64 =>
      obtain ⟨taken, mid, read, same⟩ := bind_eq_ok_iff.mp h
      obtain ⟨rfl, eight⟩ := take_eq_ok_iff.mp read
      cases same
      exact ⟨.fixed64 number taken, taken, rfl, ⟨rfl, rfl, .fixed64 eight⟩, trivial⟩
    | fixed32 =>
      obtain ⟨taken, mid, read, same⟩ := bind_eq_ok_iff.mp h
      obtain ⟨rfl, four⟩ := take_eq_ok_iff.mp read
      cases same
      exact ⟨.fixed32 number taken, taken, rfl, ⟨rfl, rfl, .fixed32 four⟩, trivial⟩
    | delimited =>
      obtain ⟨n, mid, counted, takes⟩ := bind_eq_ok_iff.mp h
      obtain ⟨count, rfl, isVarint⟩ := varint_eq_ok_iff.mp counted
      obtain ⟨taken, mid', read, same⟩ := bind_eq_ok_iff.mp takes
      obtain ⟨rfl, rfl⟩ := take_eq_ok_iff.mp read
      cases same
      exact ⟨.delimited number taken, count ++ taken, by simp, ⟨rfl, rfl, .delimited isVarint⟩,
        trivial⟩
    | startGroup =>
      obtain ⟨left, mid, known, ends⟩ := bind_eq_ok_iff.mp h
      obtain ⟨rfl, rfl⟩ := remaining_eq_ok_iff.mp known
      obtain ⟨rs, content, close, rfl, splits, closed, all⟩ := groupEnd_sound ih ends
      exact ⟨.group number rs, content ++ close, rfl, ⟨rfl, rfl, .group splits closed⟩, all⟩
    | endGroup => cases h

/-- A group of records that can be skipped is skipped up to its end. A turn takes a byte at least, so
that as many turns as there are bytes, and one for the end, suffice. -/
theorem groupEnd_of_splits {rs : List Record} {content close rest : List UInt8} {fuel : Nat}
    (inner : ∀ r ∈ rs, ∀ {n w bs}, Bears n w r bs → Decodes (Decoder.skip depth n w) bs ())
    (splits : Splits content rs) (closed : IsKey close number .endGroup)
    (enough : content.length < fuel) :
    Decoder.groupEnd (Decoder.skip depth) number fuel (content ++ close ++ rest) = .ok ((), rest) := by
  -- induction on the records
  induction rs generalizing content fuel with
  | nil =>
    cases splits
    cases fuel with
    | zero => omega
    | succ fuel =>
      rw [List.nil_append, Decoder.groupEnd, bind_eq_ok_iff]
      refine ⟨_, _, closed.decodes rest, ?_⟩
      simp only [if_true]
      rfl
  | cons r rs ih =>
    cases splits with
    | @cons _ _ key payload others isKey hpayload hothers =>
      have positive : 0 < key.length := List.length_pos_iff.mpr isKey.ne_nil
      rw [List.length_append, List.length_append] at enough
      cases fuel with
      | zero => omega
      | succ fuel =>
        have skipped := inner r List.mem_cons_self ⟨rfl, rfl, hpayload⟩
        have ended := ih (fun s hs => inner s (List.mem_cons_of_mem r hs)) hothers
          (show others.length < fuel by omega)
        have bytes : key ++ (payload ++ others) ++ close ++ rest
            = key ++ (payload ++ (others ++ close ++ rest)) := by simp
        rw [Decoder.groupEnd, bytes, bind_eq_ok_iff]
        refine ⟨_, _, isKey.decodes _, ?_⟩
        simp only [if_neg r.wireType_ne_endGroup]
        rw [bind_eq_ok_iff]
        exact ⟨(), _, skipped _, ended⟩

/-- **A record is skipped if groups in it nest no deeper than they may.** -/
theorem decodes_skip {w : WireType} {r : Record} {bs : List UInt8} (bears : Bears number w r bs)
    (within : r.Within depth) : Decodes (Decoder.skip depth number w) bs () := by
  obtain ⟨rfl, rfl, payload⟩ := bears
  -- induction on the depth
  induction depth generalizing r bs with
  | zero => exact absurd within id
  | succ depth ih =>
    cases payload with
    | varint isVarint => exact isVarint.decodes.map fun _ => ()
    | fixed64 eight =>
      have taken := decodes_take bs
      rw [eight] at taken
      exact taken.map fun _ => ()
    | fixed32 four =>
      have taken := decodes_take bs
      rw [four] at taken
      exact taken.map fun _ => ()
    | delimited isVarint => exact isVarint.decodes.bind ((decodes_take _).map fun _ => ())
    | @group n rs content close splits closed =>
      intro rest
      have inner : ∀ r ∈ rs, ∀ {n w bs}, Bears n w r bs → Decodes (Decoder.skip depth n w) bs () := by
        rintro r hr n w bs ⟨rfl, rfl, payload⟩
        exact ih (within r hr) payload
      show Decoder.groupEnd (Decoder.skip depth) n ((content ++ close ++ rest).length + 1) _ = _
      refine groupEnd_of_splits inner splits closed ?_
      simp only [List.length_append]
      omega

end Skipping

end AdminPanel.Wire
