import Mathlib.Data.List.TakeWhile
import AdminPanel.Proofs.Json.Members
import AdminPanel.Proofs.Json.Spelling

/-!
# What readers have taken

The other direction of reading: what stands in front of the place where a reader has stopped. Only the
characters count here, and not where in a document they stand.

* **`peek_eq_ok`**, **`skip_eq_ok`**, **`peekToken_eq_ok`** — the readers that all others are made of.
* **`spells_of_string`** — what has been read as a string is a spelling of it.
-/

namespace AdminPanel.Json.Reader

variable {c c' : Cursor} {token : Option Char}

/-! ## Single characters and separators -/

theorem peek_eq_ok (h : peek c = .ok (token, c')) : token = c.rest.head? ∧ c' = c := by
  cases h
  exact ⟨rfl, rfl⟩

theorem skip_eq_ok {u : Unit} (h : skip c = .ok (u, c')) {ch : Char} (first : c.rest.head? = some ch) :
    c.rest = ch :: c'.rest := by
  obtain ⟨cs, rest⟩ := List.head?_eq_some_iff.mp first
  unfold skip at h
  rw [rest] at h ⊢
  cases h
  rfl

/-- The character that has been looked at and taken. -/
theorem skip_of_peek {u : Unit} {c₁ : Cursor} {ch : Char} (looked : peek c = .ok (some ch, c₁))
    (h : skip c₁ = .ok (u, c')) : c.rest = ch :: c'.rest := by
  obtain ⟨first, rfl⟩ := peek_eq_ok looked
  exact skip_eq_ok h first.symm

theorem peekToken_eq_ok (h : peekToken c = .ok (token, c')) :
    token = c'.rest.head? ∧ ∃ gap, IsGap gap ∧ c.rest = gap ++ c'.rest := by
  unfold peekToken at h
  cases h
  refine ⟨rfl, c.rest.takeWhile isSeparator, fun ch within => List.mem_takeWhile_imp within, ?_⟩
  rw [rest_dropWhile]
  exact List.takeWhile_append_dropWhile.symm

theorem literal_eq_ok {word : List Char} {u : Unit} (h : literal word c = .ok (u, c')) :
    c.rest = word ++ c'.rest := by
  -- induction on the word, one character after the other
  induction word generalizing c with
  | nil =>
    cases h
    rfl
  | cons want word ih =>
    obtain ⟨token, c₁, looked, h⟩ := bind_eq_ok h
    split at h
    · cases h
    · split at h
      · next same =>
        obtain ⟨⟨⟩, c₂, skipped, h⟩ := bind_eq_ok h
        rw [skip_of_peek looked skipped, ih h, same, List.cons_append]
      · cases h

/-! ## Strings -/

/-- Hexadecimal digits are ASCII. -/
theorem utf8Size_of_hexValue {ch : Char} {n : Nat} (h : hexValue ch = some n) : ch.utf8Size = 1 := by
  rw [Char.utf8Size_eq_one_iff, UInt32.le_iff_toNat_le]
  have last : (127 : UInt32).toNat = 127 := rfl
  -- digits and the six letters in both cases are all below 128
  have nine : '9'.val.toNat = 57 := rfl
  have small : 'f'.val.toNat = 102 := rfl
  have capital : 'F'.val.toNat = 70 := rfl
  unfold hexValue at h
  split at h
  · next digit =>
    simp only [Char.isDigit, Bool.and_eq_true, decide_eq_true_eq, UInt32.le_iff_toNat_le] at digit
    omega
  · split at h
    · next letter =>
      simp only [Char.le_def, UInt32.le_iff_toNat_le] at letter
      omega
    · split at h
      · next letter =>
        simp only [Char.le_def, UInt32.le_iff_toNat_le] at letter
        omega
      · cases h

theorem exists_hexValue_of_foldl {digits : List Char} {acc : Option Nat} {n : Nat}
    (h : digits.foldl (fun acc c => do return (← acc) * 16 + (← hexValue c)) acc = some n) :
    (∃ a, acc = some a) ∧ ∀ d ∈ digits, ∃ m, hexValue d = some m := by
  -- induction along the digits; the number that has been read so far is there before each of them
  induction digits generalizing acc with
  | nil => exact ⟨⟨n, h⟩, nofun⟩
  | cons d digits ih =>
    obtain ⟨⟨a, step⟩, others⟩ := ih h
    cases acc with
    | none => cases step
    | some b =>
      cases value : hexValue d with
      | none =>
        simp only [value] at step
        cases step
      | some m =>
        refine ⟨⟨b, rfl⟩, fun e within => ?_⟩
        rcases List.mem_cons.mp within with rfl | within
        · exact ⟨m, value⟩
        · exact others e within

/-- Every digit has been read, so that each takes one byte. -/
theorem byteCount_of_hexNumber {digits : List Char} {n : Nat} (h : hexNumber digits = some n) :
    byteCount digits = digits.length := by
  have single (bytes : Nat) : (∀ d ∈ digits, ∃ m, hexValue d = some m) →
      digits.foldl (fun n c => n + c.utf8Size) bytes = bytes + digits.length := by
    clear h
    intro read
    induction digits generalizing bytes with
    | nil => rfl
    | cons d digits ih =>
      obtain ⟨m, value⟩ := read d List.mem_cons_self
      have one := utf8Size_of_hexValue value
      rw [List.foldl_cons, ih _ fun e within => read e (List.mem_cons_of_mem d within),
        List.length_cons]
      omega
  have whole := single 0 (exists_hexValue_of_foldl h).2
  simpa [byteCount] using whole

theorem skipMany_eq_ok {n : Nat} {u : Unit} (h : skipMany n c = .ok (u, c')) :
    c'.rest = c.rest.drop n := by
  induction n generalizing c with
  | zero =>
    cases h
    rfl
  | succ n ih =>
    obtain ⟨⟨⟩, c₁, skipped, h⟩ := bind_eq_ok h
    rw [ih h]
    unfold skip at skipped
    split at skipped
    · next empty =>
      cases skipped
      rw [empty, List.drop_nil, List.drop_nil]
    · next ch rest same =>
      cases skipped
      rw [same, List.drop_succ_cons]

theorem isUnit_of_hexUnit {n : Nat} (h : hexUnit c = .ok (n, c')) :
    ∃ digits, IsUnit digits n ∧ c.rest = digits ++ c'.rest := by
  unfold hexUnit at h
  split at h
  · cases h
  · next room =>
    split at h
    · next n' number =>
      obtain ⟨⟨⟩, c₁, skipped, h⟩ := bind_eq_ok h
      cases h
      refine ⟨c.rest.take 4, ⟨?_, number⟩, ?_⟩
      · -- fewer than four characters would be the whole rest, and four bytes
        have bytes := byteCount_of_hexNumber number
        by_contra other
        have few : c.rest.length < 4 := by
          rw [List.length_take] at other
          omega
        rw [List.take_of_length_le (by omega)] at bytes
        omega
      · rw [skipMany_eq_ok skipped, List.take_append_drop]
    · cases h

theorem expectInPair_eq_ok {want : Char} {u : Unit} (h : expectInPair want c = .ok (u, c')) :
    c.rest = want :: c'.rest := by
  obtain ⟨token, c₁, looked, h⟩ := bind_eq_ok h
  split at h
  · cases h
  · split at h
    · next same => rw [skip_of_peek looked h, same]
    · cases h

theorem spells_of_unicodeEscape {ch : Char} (h : unicodeEscape c = .ok (ch, c')) :
    ∃ text, SpellsChar ch ('\\' :: 'u' :: text) ∧ c.rest = text ++ c'.rest := by
  obtain ⟨high, c₁, first, h⟩ := bind_eq_ok h
  obtain ⟨digits, unit, rest⟩ := isUnit_of_hexUnit first
  split at h
  · cases h
  · next notLow =>
    split at h
    · next isHigh =>
      obtain ⟨⟨⟩, c₂, backslash, h⟩ := bind_eq_ok h
      obtain ⟨⟨⟩, c₃, letter, h⟩ := bind_eq_ok h
      obtain ⟨low, c₄, second, h⟩ := bind_eq_ok h
      obtain ⟨digits', unit', rest'⟩ := isUnit_of_hexUnit second
      split at h
      · next isLow =>
        obtain ⟨same, ended⟩ := Prod.mk.inj (Except.ok.inj h)
        rw [← same, ← ended]
        refine ⟨digits ++ '\\' :: 'u' :: digits', .pair unit unit' isHigh isLow, ?_⟩
        rw [rest, expectInPair_eq_ok backslash, expectInPair_eq_ok letter, rest', List.append_assoc,
          List.cons_append, List.cons_append]
      · cases h
    · next notHigh =>
      cases h
      exact ⟨digits, .unit unit (by simpa using notHigh) (by simpa using notLow), rest⟩

theorem spells_of_escape {ch : Char} (h : escape c = .ok (ch, c')) :
    ∃ text, SpellsChar ch ('\\' :: text) ∧ c.rest = text ++ c'.rest := by
  obtain ⟨token, c₁, looked, h⟩ := bind_eq_ok h
  split at h
  · cases h
  · obtain ⟨⟨⟩, c₂, skipped, h⟩ := bind_eq_ok h
    obtain ⟨text, spelled, rest⟩ := spells_of_unicodeEscape h
    exact ⟨'u' :: text, spelled, by rw [skip_of_peek looked skipped, rest, List.cons_append]⟩
  · next d _ =>
    cases short : shortEscape? d with
    | none =>
      rw [short] at h
      cases h
    | some e =>
      rw [short] at h
      obtain ⟨⟨⟩, c₂, skipped, h⟩ := bind_eq_ok h
      cases h
      exact ⟨[d], .letter short, skip_of_peek looked skipped⟩

theorem spells_of_stringFrom {collected : List Char} {fuel : Nat} {s : String}
    (h : stringFrom collected fuel c = .ok (s, c')) :
    ∃ cs body, s = String.ofList (collected.reverse ++ cs) ∧ SpellsChars cs body ∧
      c.rest = body ++ '"' :: c'.rest := by
  -- induction on the turns of the reader, each of which takes one character of the string
  induction fuel generalizing collected c with
  | zero => cases h
  | succ fuel ih =>
    obtain ⟨token, c₁, looked, h⟩ := bind_eq_ok h
    split at h
    · cases h
    · obtain ⟨⟨⟩, c₂, skipped, h⟩ := bind_eq_ok h
      cases h
      exact ⟨[], [], by simp, .nil, skip_of_peek looked skipped⟩
    · obtain ⟨⟨⟩, c₂, skipped, h⟩ := bind_eq_ok h
      obtain ⟨ch, c₃, escaped, h⟩ := bind_eq_ok h
      obtain ⟨text, spelled, rest⟩ := spells_of_escape escaped
      obtain ⟨cs, body, rfl, others, rest'⟩ := ih h
      refine ⟨ch :: cs, '\\' :: text ++ body, by simp, .cons spelled others, ?_⟩
      rw [skip_of_peek looked skipped, rest, rest']
      simp
    · next ch quote backslash =>
      split at h
      · cases h
      · next high =>
        obtain ⟨⟨⟩, c₂, skipped, h⟩ := bind_eq_ok h
        obtain ⟨cs, body, rfl, others, rest'⟩ := ih h
        refine ⟨ch :: cs, [ch] ++ body, by simp, .cons (.plain ?_ ?_ high) others, ?_⟩
        · rintro rfl
          exact quote rfl
        · rintro rfl
          exact backslash rfl
        · rw [skip_of_peek looked skipped, rest']
          simp

/-- **What has been read as a string is one of its spellings**, up to the closing quote. -/
theorem spells_of_string {s : String} (h : string c = .ok (s, c')) :
    ∃ body, SpellsChars s.toList body ∧ c.rest = body ++ '"' :: c'.rest := by
  obtain ⟨left, c₁, counted, h⟩ := bind_eq_ok h
  cases counted
  obtain ⟨cs, body, rfl, spelled, rest⟩ := spells_of_stringFrom h
  exact ⟨body, by simpa using spelled, rest⟩

end AdminPanel.Json.Reader
