import AdminPanel.Proofs.Wire.Decoding

/-!
# How bytes split into records

What the bytes of a message look like, said without a decoder: they are records, one after the
other, each a key and a payload. The records are a tree, because a group holds records of its own.
Numbers may be padded, so that one record can be written in several ways; but bytes can be split in
one way only.

## The architecture

* **`IsVarint`, `IsKey`** — the bytes of a number and of a key. The readers of both take exactly
  these bytes from the front (`varint_eq_ok_iff`, `key_eq_ok_iff`).
* **`Record`, `Splits`** — a record with its payload, and the bytes that split into records.
  `Record.Within` bounds how deep groups nest.
* **`Splits.unique`** — bytes split into records in one way. It rests on `Payload.unique`: where a
  payload ends is decided by its own bytes, whatever stands behind.
-/

namespace AdminPanel.Wire

variable {α β : Type}

/-! ## Decoders that succeed -/

theorem bind_eq_ok_iff {d : Decoder α} {f : α → Decoder β} {bs rest : List UInt8} {b : β} :
    (d >>= f) bs = .ok (b, rest) ↔ ∃ a mid, d bs = .ok (a, mid) ∧ f a mid = .ok (b, rest) := by
  show (d bs >>= fun x => f x.1 x.2) = _ ↔ _
  cases h : d bs with
  | error e =>
    show (Except.error e : Except Fault (β × List UInt8)) = _ ↔ _
    simp
  | ok x =>
    obtain ⟨a, mid⟩ := x
    show f a mid = _ ↔ _
    simp

theorem pure_eq_ok_iff {a b : α} {bs rest : List UInt8} :
    (pure a : Decoder α) bs = .ok (b, rest) ↔ a = b ∧ bs = rest := by
  show (Except.ok (a, bs) : Except Fault (α × List UInt8)) = _ ↔ _
  simp

theorem fail_ne_ok {p : Problem} {bs : List UInt8} {x : α × List UInt8} :
    (Decoder.fail p : Decoder α) bs ≠ .ok x := by
  intro h
  cases h

/-! ## Numbers -/

/-- Groups of seven bits, the lowest first, and the number that they write. All bytes but the last
have their top bit set. -/
inductive Groups : List UInt8 → Nat → Prop
  | last {b : UInt8} (h : b.toNat < 128) : Groups [b] b.toNat
  | more {b : UInt8} {bs : List UInt8} {n : Nat} (h : 128 ≤ b.toNat) (others : Groups bs n) :
      Groups (b :: bs) (b.toNat - 128 + 128 * n)

/-- The bytes of a number: at most ten groups, whose number fits 64 bits. The number may be
padded. -/
structure IsVarint (bs : List UInt8) (n : Nat) : Prop where
  groups : Groups bs n
  short : bs.length ≤ 10
  fits : n < 2 ^ 64

/-- There are no groups without a byte. -/
theorem not_groups_of_nil {taken rest : List UInt8} {n : Nat} (nothing : [] = taken ++ rest) :
    ¬ Groups taken n := by
  obtain ⟨rfl, -⟩ := List.append_eq_nil_iff.mp nothing.symm
  rintro ⟨⟩

/-- The reader takes as many groups as it has room for; of the last byte that it has room for only
one bit counts. -/
theorem readVarintFrom_eq_some_iff {room n : Nat} {bs rest : List UInt8} :
    readVarintFrom (room + 1) bs = some (n, rest) ↔ ∃ taken, bs = taken ++ rest ∧
      Groups taken n ∧ taken.length ≤ room + 1 ∧ n < 2 * 128 ^ room := by
  -- induction on the room; a byte is the last group or is followed by others
  induction room generalizing bs n with
  | zero =>
    cases bs with
    | nil =>
      refine iff_of_false (by simp [readVarintFrom]) ?_
      rintro ⟨taken, nothing, groups, -⟩
      exact not_groups_of_nil nothing groups
    | cons b bs =>
      have empty : readVarintFrom 0 bs = none := by rw [readVarintFrom]
      rw [readVarintFrom]
      constructor
      · intro h
        split at h
        · cases h
        · split at h
          · cases h
            exact ⟨[b], rfl, .last ‹_›, by simp, by omega⟩
          · rw [empty] at h
            cases h
      · rintro ⟨taken, same, groups, short, small⟩
        cases groups with
        | last h =>
          obtain ⟨rfl, rfl⟩ := List.cons.inj same
          rw [if_neg (by omega), if_pos h]
        | more h others =>
          cases others <;> simp at short
  | succ room ih =>
    have grows : 2 * 128 ^ (room + 1) = 128 * (2 * 128 ^ room) := by ring
    have positive : 0 < 128 ^ room := by positivity
    cases bs with
    | nil =>
      refine iff_of_false (by simp [readVarintFrom]) ?_
      rintro ⟨taken, nothing, groups, -⟩
      exact not_groups_of_nil nothing groups
    | cons b bs =>
      have byte := b.toNat_lt
      rw [readVarintFrom, if_neg (by omega)]
      constructor
      · intro h
        split at h
        · cases h
          exact ⟨[b], rfl, .last ‹_›, by simp, by omega⟩
        · obtain ⟨⟨n', rest'⟩, read, same⟩ := Option.map_eq_some_iff.mp h
          cases same
          obtain ⟨taken, rfl, groups, short, small⟩ := ih.mp read
          exact ⟨b :: taken, rfl, .more (by omega) groups, by simp; omega, by omega⟩
      · rintro ⟨taken, same, groups, short, small⟩
        cases groups with
        | last h =>
          obtain ⟨rfl, rfl⟩ := List.cons.inj same
          rw [if_pos h]
        | @more _ taken n' h groups =>
          obtain ⟨rfl, rfl⟩ := List.cons.inj same
          have read : readVarintFrom (room + 1) (taken ++ rest) = some (n', rest) :=
            ih.mpr ⟨taken, rfl, groups, by simpa using short, by omega⟩
          rw [if_neg (by omega)]
          show (readVarintFrom (room + 1) (taken ++ rest)).map _ = _
          rw [read]
          rfl

/-- **The reader of numbers takes exactly the bytes of a number from the front.** -/
theorem varint_eq_ok_iff {n : Nat} {bs rest : List UInt8} :
    Decoder.varint bs = .ok (n, rest) ↔ ∃ taken, bs = taken ++ rest ∧ IsVarint taken n := by
  have bound : 2 * 128 ^ 9 = 2 ^ 64 := by norm_num
  have read : Decoder.varint bs = .ok (n, rest) ↔ readVarint bs = some (n, rest) := by
    rw [Decoder.varint]
    cases readVarint bs <;> simp
  rw [read, readVarint, readVarintFrom_eq_some_iff, bound]
  refine exists_congr fun taken => and_congr_right fun _ => ?_
  constructor
  · rintro ⟨groups, short, fits⟩
    exact ⟨groups, short, fits⟩
  · rintro ⟨groups, short, fits⟩
    exact ⟨groups, short, fits⟩

theorem IsVarint.decodes {bs : List UInt8} {n : Nat} (h : IsVarint bs n) :
    Decodes Decoder.varint bs n :=
  fun _ => varint_eq_ok_iff.mpr ⟨bs, rfl, h⟩

theorem IsVarint.ne_nil {bs : List UInt8} {n : Nat} (h : IsVarint bs n) : bs ≠ [] := by
  rintro rfl
  cases h.groups

/-- Two decodings of the same bytes end at the same place, with the same value. -/
theorem Decodes.unique {d : Decoder α} {bs bs' rest rest' : List UInt8} {a a' : α}
    (h : Decodes d bs a) (h' : Decodes d bs' a') (same : bs ++ rest = bs' ++ rest') :
    a = a' ∧ bs = bs' ∧ rest = rest' := by
  have read := h rest
  rw [same, h' rest'] at read
  obtain ⟨rfl, rfl⟩ := Prod.mk.inj (Except.ok.inj read)
  exact ⟨rfl, List.append_cancel_right same, rfl⟩

/-! ## Keys -/

/-- The bytes of a key: a number that fits 32 bits, made of the number of a field, which is not
zero, and the layout of the payload. -/
structure IsKey (bs : List UInt8) (number : Nat) (w : WireType) : Prop where
  positive : 0 < number
  fits : number * 8 + w.code < 2 ^ 32
  varint : IsVarint bs (number * 8 + w.code)

theorem WireType.code_lt (w : WireType) : w.code < 8 := by
  cases w <;> decide

theorem WireType.ofCode?_eq_some_iff {n : Nat} {w : WireType} :
    ofCode? n = some w ↔ n = w.code := by
  constructor
  · intro h
    match n with
    | 0 | 1 | 2 | 3 | 4 | 5 =>
      cases h
      rfl
    | n + 6 => cases h
  · rintro rfl
    exact ofCode?_code w

theorem key_eq_ok_iff {number : Nat} {w : WireType} {bs rest : List UInt8} :
    Decoder.key bs = .ok ((number, w), rest) ↔ ∃ taken, bs = taken ++ rest ∧
      IsKey taken number w := by
  have code := w.code_lt
  rw [Decoder.key, bind_eq_ok_iff]
  constructor
  · rintro ⟨k, mid, read, h⟩
    obtain ⟨taken, rfl, isVarint⟩ := varint_eq_ok_iff.mp read
    split at h
    · obtain ⟨_, _, failed, -⟩ := bind_eq_ok_iff.mp h
      exact absurd failed fail_ne_ok
    · split at h
      · exact absurd h fail_ne_ok
      · next w' known =>
        split at h
        · exact absurd h fail_ne_ok
        · obtain ⟨same, rfl⟩ := pure_eq_ok_iff.mp h
          obtain ⟨rfl, rfl⟩ := Prod.mk.inj same
          -- the key is the number and the kind in one word, eight kinds to a number
          have layout := WireType.ofCode?_eq_some_iff.mp known
          have whole : k / 8 * 8 + w'.code = k := by omega
          exact ⟨taken, rfl, by omega, by omega, by rw [whole]; exact isVarint⟩
  · rintro ⟨taken, rfl, positive, fits, isVarint⟩
    have kind : (number * 8 + w.code) % 8 = w.code := by omega
    have field : (number * 8 + w.code) / 8 = number := by omega
    refine ⟨_, _, varint_eq_ok_iff.mpr ⟨taken, rfl, isVarint⟩, ?_⟩
    simp only [if_neg (show ¬ 0x100000000 ≤ number * 8 + w.code by omega), kind,
      WireType.ofCode?_code, field, if_neg (show ¬ number = 0 by omega)]
    rfl

theorem IsKey.decodes {bs : List UInt8} {number : Nat} {w : WireType} (h : IsKey bs number w) :
    Decodes Decoder.key bs (number, w) :=
  fun _ => key_eq_ok_iff.mpr ⟨bs, rfl, h⟩

theorem IsKey.ne_nil {bs : List UInt8} {number : Nat} {w : WireType} (h : IsKey bs number w) :
    bs ≠ [] :=
  h.varint.ne_nil

/-! ## Records -/

/-- A record: the number of its field, and what its payload holds. -/
inductive Record where
  | varint (number value : Nat)
  | fixed64 (number : Nat) (bytes : List UInt8)
  | delimited (number : Nat) (bytes : List UInt8)
  | group (number : Nat) (records : List Record)
  | fixed32 (number : Nat) (bytes : List UInt8)

namespace Record

def number : Record → Nat
  | .varint n _ | .fixed64 n _ | .delimited n _ | .group n _ | .fixed32 n _ => n

def wireType : Record → WireType
  | .varint .. => .varint
  | .fixed64 .. => .fixed64
  | .delimited .. => .delimited
  | .group .. => .startGroup
  | .fixed32 .. => .fixed32

/-- Groups in the record nest at most so deep; the record itself counts as one level. -/
def Within : Nat → Record → Prop
  | 0, _ => False
  | depth + 1, .group _ records => ∀ r ∈ records, Within depth r
  | _ + 1, _ => True

theorem wireType_ne_endGroup (r : Record) : r.wireType ≠ .endGroup := by
  cases r <;> simp [wireType]

end Record

mutual

/-- The bytes of the payload of a record. A group is closed by a key with its own number. -/
inductive Record.Payload : Record → List UInt8 → Prop
  | varint {number n : Nat} {bs : List UInt8} (h : IsVarint bs n) :
      Record.Payload (.varint number n) bs
  | fixed64 {number : Nat} {bs : List UInt8} (h : bs.length = 8) :
      Record.Payload (.fixed64 number bs) bs
  | delimited {number : Nat} {count bs : List UInt8} (h : IsVarint count bs.length) :
      Record.Payload (.delimited number bs) (count ++ bs)
  | group {number : Nat} {records : List Record} {content close : List UInt8}
      (h : Splits content records) (closed : IsKey close number .endGroup) :
      Record.Payload (.group number records) (content ++ close)
  | fixed32 {number : Nat} {bs : List UInt8} (h : bs.length = 4) :
      Record.Payload (.fixed32 number bs) bs

/-- The bytes split completely into the records, each behind its key. -/
inductive Splits : List UInt8 → List Record → Prop
  | nil : Splits [] []
  | cons {r : Record} {rs : List Record} {key payload bs : List UInt8}
      (isKey : IsKey key r.number r.wireType) (h : r.Payload payload) (others : Splits bs rs) :
      Splits (key ++ (payload ++ bs)) (r :: rs)

end

namespace Splits

variable {r : Record} {rs rs' : List Record} {bs bs' : List UInt8}

theorem one {key payload : List UInt8} (isKey : IsKey key r.number r.wireType)
    (h : r.Payload payload) : Splits (key ++ payload) [r] := by
  have single := Splits.cons isKey h .nil
  rw [List.append_nil] at single
  exact single

theorem append (h : Splits bs rs) (h' : Splits bs' rs') : Splits (bs ++ bs') (rs ++ rs') := by
  -- induction on the records
  induction rs generalizing bs with
  | nil =>
    cases h
    exact h'
  | cons r rs ih =>
    cases h with
    | cons isKey payload others =>
      rw [List.append_assoc, List.append_assoc]
      exact .cons isKey payload (ih others)

end Splits

/-! ## Bytes split in one way -/

/-- Payloads of fewer bytes than so many end where their own bytes say, whatever stands behind, and are
the payloads of one record. -/
def PayloadsDetermined (size : Nat) : Prop :=
  ∀ {r r' : Record} {bs bs' rest rest' : List UInt8}, bs.length < size → r.Payload bs →
    r'.Payload bs' → r.number = r'.number → r.wireType = r'.wireType →
    bs ++ rest = bs' ++ rest' → r = r' ∧ rest = rest'

/-- The records up to a key that ends a group are determined if their payloads are: no record starts
with such a key. -/
theorem Splits.unique_of_payloads {size number number' : Nat} (payloads : PayloadsDetermined size)
    {rs rs' : List Record} {bs bs' close close' rest rest' : List UInt8} (short : bs.length < size)
    (h : Splits bs rs) (h' : Splits bs' rs')
    (closed : IsKey close number .endGroup) (closed' : IsKey close' number' .endGroup)
    (same : bs ++ (close ++ rest) = bs' ++ (close' ++ rest')) : rs = rs' ∧ rest = rest' := by
  -- induction on the records
  induction rs generalizing bs bs' rs' with
  | nil =>
    cases h
    cases h' with
    | nil => exact ⟨rfl, (closed.decodes.unique closed'.decodes same).2.2⟩
    | @cons r _ key payload others isKey =>
      rw [List.append_assoc] at same
      have keys := (closed.decodes.unique isKey.decodes same).1
      exact absurd (Prod.mk.inj keys).2.symm r.wireType_ne_endGroup
  | cons r rs ih =>
    cases h with
    | @cons _ _ key payload others isKey hpayload hothers =>
      rw [List.append_assoc, List.append_assoc] at same
      cases h' with
      | nil =>
        have keys := (isKey.decodes.unique closed'.decodes same).1
        exact absurd (Prod.mk.inj keys).2 r.wireType_ne_endGroup
      | @cons r' rs' key' payload' others' isKey' hpayload' hothers' =>
        rw [List.append_assoc, List.append_assoc] at same
        rw [List.length_append, List.length_append] at short
        -- the same key, hence the same payload, and the others behind it
        obtain ⟨keys, -, behind⟩ := isKey.decodes.unique isKey'.decodes same
        obtain ⟨number, layout⟩ := Prod.mk.inj keys
        obtain ⟨rfl, behind⟩ := payloads (by omega) hpayload hpayload' number layout behind
        obtain ⟨rfl, ends⟩ := ih (by omega) hothers hothers' behind
        exact ⟨rfl, ends⟩

/-- **A payload ends where its own bytes say, and is the payload of one record.** -/
theorem payloadsDetermined (size : Nat) : PayloadsDetermined size := by
  -- induction on the size, because a group holds records of its own
  induction size with
  | zero =>
    intro r r' bs bs' rest rest' short
    omega
  | succ size ih =>
    intro r r' bs bs' rest rest' short h h' number layout same
    cases h with
    | varint isVarint =>
      cases h' with
      | varint isVarint' =>
        obtain ⟨rfl, -, behind⟩ := isVarint.decodes.unique isVarint'.decodes same
        cases number
        exact ⟨rfl, behind⟩
      | _ => cases layout
    | fixed64 eight =>
      cases h' with
      | fixed64 eight' =>
        obtain ⟨rfl, behind⟩ := List.append_inj same (eight.trans eight'.symm)
        cases number
        exact ⟨rfl, behind⟩
      | _ => cases layout
    | delimited count =>
      cases h' with
      | delimited count' =>
        rw [List.append_assoc, List.append_assoc] at same
        obtain ⟨length, -, behind⟩ := count.decodes.unique count'.decodes same
        obtain ⟨rfl, ends⟩ := List.append_inj behind length
        cases number
        exact ⟨rfl, ends⟩
      | _ => cases layout
    | fixed32 four =>
      cases h' with
      | fixed32 four' =>
        obtain ⟨rfl, behind⟩ := List.append_inj same (four.trans four'.symm)
        cases number
        exact ⟨rfl, behind⟩
      | _ => cases layout
    | @group n records content close splits closed =>
      cases h' with
      | group splits' closed' =>
        have positive : 0 < close.length := List.length_pos_iff.mpr closed.ne_nil
        rw [List.length_append] at short
        rw [List.append_assoc, List.append_assoc] at same
        obtain ⟨rfl, behind⟩ :=
          Splits.unique_of_payloads ih (by omega) splits splits' closed closed' same
        cases number
        exact ⟨rfl, behind⟩
      | _ => cases layout

/-- **Bytes split into records in one way.** -/
theorem Splits.unique {rs rs' : List Record} {bs : List UInt8} (h : Splits bs rs)
    (h' : Splits bs rs') : rs = rs' := by
  -- both splits are followed by the same end of a group
  have closed : IsKey [12] 1 .endGroup :=
    ⟨by decide, by decide, .last (by decide), by decide, by decide⟩
  have same : bs ++ ([12] ++ []) = bs ++ ([12] ++ []) := rfl
  exact (Splits.unique_of_payloads (payloadsDetermined (bs.length + 1)) (by omega) h h' closed
    closed same).1

/-- Where bytes start with whole records, what stands behind them is split on its own. -/
theorem Splits.of_append {rs rs' : List Record} {bs bs' : List UInt8} (h : Splits bs rs)
    (h' : Splits (bs ++ bs') rs') : ∃ back, rs' = rs ++ back ∧ Splits bs' back := by
  -- induction on the records in front
  induction rs generalizing bs rs' with
  | nil =>
    cases h
    exact ⟨rs', rfl, h'⟩
  | cons r rs ih =>
    cases h with
    | @cons _ _ key payload others isKey hpayload hothers =>
      rw [List.append_assoc, List.append_assoc] at h'
      generalize whole : key ++ (payload ++ (others ++ bs')) = all at h'
      cases h' with
      | nil =>
        obtain ⟨none, -⟩ := List.append_eq_nil_iff.mp whole
        exact absurd none isKey.ne_nil
      | @cons r' rs' key' payload' others' isKey' hpayload' hothers' =>
        obtain ⟨keys, -, behind⟩ := isKey.decodes.unique isKey'.decodes whole
        obtain ⟨number, layout⟩ := Prod.mk.inj keys
        obtain ⟨rfl, ends⟩ := payloadsDetermined (payload.length + 1) (by omega) hpayload
          hpayload' number layout behind
        rw [← ends] at hothers'
        obtain ⟨back, rfl, splits⟩ := ih hothers hothers'
        exact ⟨back, rfl, splits⟩

end AdminPanel.Wire
