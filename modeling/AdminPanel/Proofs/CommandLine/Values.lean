import AdminPanel.CommandLine.Scan

/-!
# Values and their texts

Every value that can be given for an argument has a text that is read as the value: texts as themselves,
numbers in decimal, and the others by their names (`Argument.read_write`). Only an empty path cannot be given.
-/

namespace AdminPanel.CommandLine

/-! ## Numbers -/

/-- The digits of a number are read as the number. -/
theorem digitsFrom_toDigits {n : Nat} (fits : n < 0x10000000000000000) (rest : List Char) :
    digitsFrom 0 (Nat.toDigits 10 n ++ rest) = digitsFrom n rest := by
  have one {m d : Nat} (digit : d < 10) (fits : 10 * m + d < 0x10000000000000000) (rest : List Char) :
      digitsFrom m (Nat.digitChar d :: rest) = digitsFrom (10 * m + d) rest := by
    have isDigit : ∀ d < 10, (Nat.digitChar d).isDigit = true ∧ (Nat.digitChar d).toNat - 48 = d := by
      decide
    rw [digitsFrom, if_pos (isDigit d digit).1, (isDigit d digit).2]
    exact if_pos fits
  induction n using Nat.strongRecOn generalizing rest with
  | ind n ih =>
    rcases Nat.lt_or_ge n 10 with small | large
    · rw [Nat.toDigits_of_lt_base small, List.singleton_append, one small (by omega), Nat.mul_zero,
        Nat.zero_add]
    · -- the last digit is read behind the digits of the rest
      rw [Nat.toDigits_of_base_le (by decide) large, List.append_assoc, ih (n / 10) (by omega) (by omega),
        List.singleton_append, one (Nat.mod_lt n (by decide)) (by omega), Nat.div_add_mod]

theorem readNumber_toString (n : UInt64) : readNumber (toString n.toNat) = .ok n := by
  have digits := digitsFrom_toDigits n.toNat_lt []
  rw [List.append_nil] at digits
  have notPlus : ∀ c ∈ Nat.toDigits 10 n.toNat, c ≠ '+' := by
    rintro c within rfl
    exact absurd (Nat.isDigit_of_mem_toDigits (by decide) (by decide) within) (by decide)
  have whole : (digitsFrom 0 (Nat.toDigits 10 n.toNat)).map UInt64.ofNat = .ok n := by
    rw [digits]
    exact congrArg Except.ok UInt64.ofNat_toNat
  rw [readNumber, Nat.toString_eq_ofList_toDigits, String.toList_ofList]
  split
  · next empty => exact absurd empty Nat.toDigits_ne_nil
  · next plus => exact absurd rfl (notPlus '+' (plus ▸ List.mem_singleton.mpr rfl))
  · next plus => exact absurd rfl (notPlus '+' (plus ▸ List.mem_cons_self))
  · exact whole

/-! ## Other values -/

/-- The word of a running state. -/
def statusWord : Message.RunningStatus → String
  | .normal => "normal"
  | .maintaining => "maintaining"

theorem readBackend_name (b : Backend) : readBackend b.name = .ok b := by
  cases b <;> rfl

theorem readStatus_statusWord (status : Message.RunningStatus) :
    readStatus (statusWord status) = .ok status := by
  cases status <;> rfl

theorem readPath_of_ne_empty {s : String} (h : s ≠ "") : readPath s = .ok s :=
  if_neg (by simpa using h)

namespace Argument

/-- The text that stands for a value. -/
def write : (a : Argument) → a.Value → String
  | .storage, b => b.name
  | .json, _ => ""
  | .status, r => statusWord r
  | .seconds, n | .userId, n => toString n.toNat
  | .baseAddress, s | .logDir, s | .reason, s | .account, s | .path, s | .title, s | .content, s
  | .file, s => s

/-- Whether a value can be given: an empty path cannot. -/
def Givable : (a : Argument) → a.Value → Prop
  | .logDir, s | .file, s => s ≠ ""
  | _, _ => True

/-- **The text of a value is read as the value.** -/
theorem read_write {a : Argument} {v : a.Value} (h : a.Givable v) : a.read (a.write v) = .ok v := by
  have count (n : UInt64) : readCount (toString n.toNat) = .ok n := by
    rw [readCount, readNumber_toString]
    rfl
  cases a
  case storage => exact readBackend_name v
  case status => exact readStatus_statusWord v
  case seconds | userId => exact count v
  case logDir | file => exact readPath_of_ne_empty h
  all_goals rfl

end Argument

end AdminPanel.CommandLine
