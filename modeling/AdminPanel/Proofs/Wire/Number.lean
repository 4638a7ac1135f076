import AdminPanel.Wire.Varint
import Mathlib.Tactic.NormNum
import Mathlib.Tactic.Ring

/-!
# Numbers on the wire

Reading a number undoes writing it, whatever stands behind: variable-length integers of up to 64
bits (`readVarint_varint`), with the ten-byte limit of the reader, and numbers of a fixed count of
bytes (`ofLittleEndian_littleEndian`).
-/

namespace AdminPanel.Wire

/-! ## Variable-length integers -/

theorem toNat_ofNat_of_lt {n : Nat} (h : n < 256) : (UInt8.ofNat n).toNat = n := by
  rw [UInt8.toNat_ofNat', Nat.mod_eq_of_lt h]

/-- With room for `room + 1` bytes, numbers of `7 * room + 1` bits are read back. Of the last byte
only one bit counts, which is where the bound comes from. -/
theorem readVarintFrom_varintFrom (room n : Nat) (rest : List UInt8) (h : n < 2 * 128 ^ room) :
    readVarintFrom (room + 1) (varintFrom n (room + 1) ++ rest) = some (n, rest) := by
  -- induction on the room
  induction room generalizing n with
  | zero =>
    have small : n < 2 := by simpa using h
    have byte := toNat_ofNat_of_lt (show n < 256 by omega)
    rw [varintFrom, if_pos (by omega)]
    rw [List.singleton_append, readVarintFrom, byte, if_neg (by omega), if_pos (by omega)]
  | succ room ih =>
    rw [varintFrom]
    by_cases last : n < 128
    · have byte := toNat_ofNat_of_lt (show n < 256 by omega)
      rw [if_pos last, List.singleton_append, readVarintFrom, byte, if_neg (by omega), if_pos last]
    · have byte := toNat_ofNat_of_lt (show n % 128 + 128 < 256 by omega)
      have fewer : n / 128 < 2 * 128 ^ room := by
        rw [Nat.div_lt_iff_lt_mul (by decide)]
        calc n < 2 * 128 ^ (room + 1) := h
          _ = 2 * 128 ^ room * 128 := by ring
      rw [if_neg last, List.cons_append, readVarintFrom, byte, if_neg (by omega), if_neg (by omega),
        ih (n / 128) fewer]
      show some (n % 128 + 128 - 128 + 128 * (n / 128), rest) = some (n, rest)
      have whole : n % 128 + 128 - 128 + 128 * (n / 128) = n := by omega
      rw [whole]

/-- **Reading a number of 64 bits undoes writing it.** -/
theorem readVarint_varint {n : Nat} (h : n < 2 ^ 64) (rest : List UInt8) :
    readVarint (varint n ++ rest) = some (n, rest) := by
  refine readVarintFrom_varintFrom 9 n rest ?_
  have bound : 2 * 128 ^ 9 = 2 ^ 64 := by norm_num
  omega

theorem varint_ne_nil (n : Nat) : varint n ≠ [] := by
  rw [varint, varintFrom]
  split <;> simp

/-! ## Numbers of a fixed size -/

theorem length_littleEndian (value n : Nat) : (littleEndian value n).length = n := by
  induction n generalizing value with
  | zero => rfl
  | succ n ih => rw [littleEndian, List.length_cons, ih]

/-- Reading a number that fits its bytes undoes writing it. -/
theorem ofLittleEndian_littleEndian {value n : Nat} (h : value < 256 ^ n) :
    ofLittleEndian (littleEndian value n) = value := by
  -- induction on the bytes
  induction n generalizing value with
  | zero =>
    have zero : value = 0 := by simpa using h
    rw [zero]
    rfl
  | succ n ih =>
    have fewer : value / 256 < 256 ^ n := by
      rw [Nat.div_lt_iff_lt_mul (by decide), ← Nat.pow_succ]
      exact h
    have byte := toNat_ofNat_of_lt (show value % 256 < 256 by omega)
    rw [littleEndian, ofLittleEndian, byte, ih fewer]
    omega

end AdminPanel.Wire
