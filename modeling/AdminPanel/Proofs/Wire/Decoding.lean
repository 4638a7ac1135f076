import AdminPanel.Wire.Decode
import AdminPanel.Proofs.Text.Utf8
import AdminPanel.Proofs.Wire.Number

/-!
# Decoders that take what was written

What it means that a decoder takes some bytes from the front and gives a value, whatever bytes
stand behind them, and how such decoders are put together.

## The architecture

* **`Decodes d bs a`** — the decoder takes exactly these bytes. Decoders that are bound take their
  bytes one after the other (`Decodes.bind`).
* **`Steps step a bs b`** — a step that is repeated takes the bytes in stretches, and leads from one
  value to another. The loops of the decoder make such steps until their bytes are used up
  (`untilLeft_of_steps`), be it a counted stretch (`decodes_counted`) or a whole message.
* the payloads of scalars (`Scalar.decodes`) and keys (`decodes_key`), which all rest on the round
  trips of numbers and texts.
-/

namespace AdminPanel.Wire

variable {α β : Type}

/-! ## Decoders one after the other -/

/-- The decoder takes these bytes from the front and gives the value, whatever stands behind. -/
def Decodes (d : Decoder α) (bs : List UInt8) (a : α) : Prop :=
  ∀ rest, d (bs ++ rest) = .ok (a, rest)

namespace Decodes

theorem pure (a : α) : Decodes (Pure.pure a : Decoder α) [] a := fun _ => rfl

/-- Decoders that are bound take their bytes one after the other. -/
theorem bind {d : Decoder α} {f : α → Decoder β} {bs bs' : List UInt8} {a : α} {b : β}
    (h : Decodes d bs a) (hf : Decodes (f a) bs' b) : Decodes (d >>= f) (bs ++ bs') b := by
  intro rest
  rw [List.append_assoc]
  show (d (bs ++ (bs' ++ rest)) >>= fun x => f x.1 x.2) = _
  rw [h (bs' ++ rest)]
  exact hf rest

theorem bind_nil {d : Decoder α} {f : α → Decoder β} {bs : List UInt8} {a : α} {b : β}
    (h : Decodes d bs a) (hf : Decodes (f a) [] b) : Decodes (d >>= f) bs b := by
  rw [← List.append_nil bs]
  exact h.bind hf

theorem map {d : Decoder α} {bs : List UInt8} {a : α} (h : Decodes d bs a) (f : α → β) :
    Decodes (do return f (← d)) bs (f a) :=
  h.bind_nil (Decodes.pure (f a))

theorem after {d : Decoder Unit} {f : Unit → Decoder β} {bs : List UInt8} {b : β}
    (h : Decodes d [] ()) (hf : Decodes (f ()) bs b) : Decodes (d >>= f) bs b :=
  h.bind hf

/-- Naming the field of faults changes nothing where there is none. -/
theorem inside (owner field : String) {d : Decoder α} {bs : List UInt8} {a : α}
    (h : Decodes d bs a) : Decodes (Decoder.inside owner field d) bs a := by
  intro rest
  rw [Decoder.inside, h rest]

end Decodes

/-! ## Numbers, keys and stretches of bytes -/

theorem decodes_varint {n : Nat} (h : n < 2 ^ 64) : Decodes Decoder.varint (varint n) n := by
  intro rest
  rw [Decoder.varint, readVarint_varint h]

theorem decodes_take (bs : List UInt8) : Decodes (Decoder.take bs.length) bs bs := by
  intro rest
  rw [Decoder.take, if_neg (by simp), List.take_left, List.drop_left]

theorem decodes_expect (w : WireType) : Decodes (Decoder.expect w w) [] () := by
  rw [Decoder.expect, if_pos rfl]
  exact .pure ()

/-- The key of a record is read back, for every number that a field can have. -/
theorem decodes_key {number : Nat} (positive : 0 < number) (small : number < 0x20000000)
    (w : WireType) : Decodes Decoder.key (key number w) (number, w) := by
  have code : w.code < 8 := by cases w <;> decide
  have inRange : number * 8 + w.code < 2 ^ 32 := by omega
  have kind : (number * 8 + w.code) % 8 = w.code := by omega
  have field : (number * 8 + w.code) / 8 = number := by omega
  refine (decodes_varint (by omega)).bind_nil ?_
  simp only [if_neg (show ¬ 0x100000000 ≤ number * 8 + w.code by omega), kind,
    WireType.ofCode?_code, field, if_neg (show ¬ number = 0 by omega)]
  exact .pure _

/-! ## Steps that are repeated -/

/-- The step, repeated, takes the bytes in stretches that are not empty, and leads from the first
value to the last. -/
inductive Steps (step : α → Decoder α) : α → List UInt8 → α → Prop
  | done (a : α) : Steps step a [] a
  | more {a b c : α} {bs rest : List UInt8} (first : Decodes (step a) bs b) (some : bs ≠ [])
      (then_ : Steps step b rest c) : Steps step a (bs ++ rest) c

namespace Steps

variable {step : α → Decoder α} {a b c : α} {bs bs' : List UInt8}

theorem one (first : Decodes (step a) bs b) (some : bs ≠ []) : Steps step a bs b := by
  rw [← List.append_nil bs]
  exact .more first some (.done b)

theorem trans (h : Steps step a bs b) (h' : Steps step b bs' c) : Steps step a (bs ++ bs') c := by
  induction h with
  | done a => exact h'
  | more first some _ ih =>
    rw [List.append_assoc]
    exact .more first some (ih h')

end Steps

/-- The loop repeats the step until only the bytes behind are left. A turn takes a byte at least, so
that as many turns as there are bytes suffice. -/
theorem untilLeft_of_steps {step : α → Decoder α} {a b : α} {bs : List UInt8}
    (h : Steps step a bs b) (rest : List UInt8) {fuel : Nat} (enough : bs.length ≤ fuel) :
    Decoder.untilLeft rest.length step fuel a (bs ++ rest) = .ok (b, rest) := by
  -- induction on the steps
  induction h generalizing fuel with
  | done a =>
    cases fuel with
    | zero => rfl
    | succ fuel =>
      show (if ([] ++ rest).length ≤ rest.length then pure a
        else step a >>= Decoder.untilLeft rest.length step fuel : Decoder α) ([] ++ rest) = _
      rw [List.nil_append, if_pos le_rfl]
      rfl
  | @more a b c bs bs' first some _ ih =>
    have positive : 0 < bs.length := List.length_pos_iff.mpr some
    rw [List.length_append] at enough
    cases fuel with
    | zero => omega
    | succ fuel =>
      show (if ((bs ++ bs') ++ rest).length ≤ rest.length then pure a
        else step a >>= Decoder.untilLeft rest.length step fuel : Decoder α)
          ((bs ++ bs') ++ rest) = _
      rw [if_neg (by simp only [List.length_append]; omega), List.append_assoc]
      show (step a (bs ++ (bs' ++ rest)) >>= fun x =>
        Decoder.untilLeft rest.length step fuel x.1 x.2) = _
      rw [first (bs' ++ rest)]
      exact ih (by omega)

/-- A counted stretch is taken by steps that end where it ends, however its count is written. -/
theorem decodes_counted_of {step : α → Decoder α} {a b : α} {count bs : List UInt8}
    (counted : Decodes Decoder.varint count bs.length) (h : Steps step a bs b) :
    Decodes (Decoder.counted step a) (count ++ bs) b := by
  refine counted.bind fun rest => ?_
  have behind : (bs ++ rest).length - bs.length = rest.length := by simp
  have inside : ¬ (bs ++ rest).length < bs.length := by simp
  have taken := untilLeft_of_steps h rest (le_refl bs.length)
  rw [← behind] at taken
  -- the count, the check, the loop and the last check, one after the other
  simp only [bind, StateT.bind, Decoder.remaining, Except.bind, if_neg inside, taken]
  rw [behind, if_pos rfl]
  rfl

/-- A counted stretch is taken behind the count that is written. -/
theorem decodes_counted {step : α → Decoder α} {a b : α} {bs : List UInt8}
    (h : Steps step a bs b) (short : bs.length < 2 ^ 64) :
    Decodes (Decoder.counted step a) (sized bs) b :=
  decodes_counted_of (decodes_varint short) h

theorem decodes_text (text : String) (short : text.toUTF8.toList.length < 2 ^ 64) :
    Decodes Decoder.text (sized text.toUTF8.toList) text := by
  refine (decodes_varint short).bind ?_
  refine (decodes_take _).bind_nil ?_
  rw [Text.fromUTF8?_toUTF8]
  exact .pure text

/-! ## Scalars -/

/-- A signed word of 32 bits is cut out of the word of 64 bits that it was widened to: the sign
only fills the upper half. -/
theorem toInt32_of_widened (v : Int32) :
    (UInt32.ofNat v.toInt64.toUInt64.toNat).toInt32 = v := by
  apply Int32.toBitVec_inj.mp
  show BitVec.ofNat 32 (v.toBitVec.signExtend 64).toNat = v.toBitVec
  apply BitVec.eq_of_toNat_eq
  have small := v.toBitVec.isLt
  rw [BitVec.toNat_ofNat, BitVec.toNat_signExtend, BitVec.toNat_setWidth]
  split <;> omega

/-- **The payload of a scalar is read back**, for every value of its type. -/
theorem Scalar.decodes (s : Scalar β) (v : β) (short : (s.payload v).length < 2 ^ 64) :
    Decodes s.read (s.payload v) v := by
  -- integers are varints of their words, negative ones widened to 64 bits first
  cases s with
  | uint64 =>
    have read := (decodes_varint v.toNat_lt).map UInt64.ofNat
    rw [UInt64.ofNat_toNat] at read
    exact read
  | uint32 =>
    have read := (decodes_varint (lt_trans v.toNat_lt (by decide))).map UInt32.ofNat
    rw [UInt32.ofNat_toNat] at read
    exact read
  | int64 =>
    have read := (decodes_varint v.toUInt64.toNat_lt).map fun n => (UInt64.ofNat n).toInt64
    simp only [UInt64.ofNat_toNat] at read
    exact read
  | int32 =>
    have read := (decodes_varint v.toInt64.toUInt64.toNat_lt).map fun n => (UInt32.ofNat n).toInt32
    rw [toInt32_of_widened] at read
    exact read
  | bool =>
    cases v with
    | false => exact (decodes_varint (by decide)).map fun n => n != 0
    | true => exact (decodes_varint (by decide)).map fun n => n != 0
  | double =>
    have taken := (decodes_take (littleEndian v.bits.toNat 8)).map fun bs =>
      (⟨UInt64.ofNat (ofLittleEndian bs)⟩ : Decimal.Binary64)
    rw [length_littleEndian, ofLittleEndian_littleEndian v.bits.toNat_lt,
      UInt64.ofNat_toNat] at taken
    exact taken
  | string =>
    refine decodes_text v ?_
    rw [Scalar.payload, sized, List.length_append] at short
    omega
  | enumeration names =>
    have read := (decodes_varint v.toInt64.toUInt64.toNat_lt).map fun n => (UInt32.ofNat n).toInt32
    rw [toInt32_of_widened] at read
    exact read

end AdminPanel.Wire
