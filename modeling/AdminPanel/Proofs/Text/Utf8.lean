import Mathlib.Data.List.TakeDrop

/-!
# Texts as lists of bytes

Files and messages hold texts as the list of their UTF-8 bytes. Decoding the bytes of a text gives
the text (`fromUTF8?_toUTF8`), whatever characters are in it.
-/

namespace AdminPanel.Text

/-- Listing the bytes of an array from a place on: those listed so far, and then the others. -/
theorem toList_loop (bytes : ByteArray) (i : Nat) (done : List UInt8) :
    ByteArray.toList.loop bytes i done = done.reverse ++ bytes.data.toList.drop i := by
  -- induction along the scan
  fun_induction ByteArray.toList.loop bytes i done with
  | case1 i done inside ih =>
    have lt : i < bytes.data.toList.length := by simpa using inside
    have byte : bytes.get! i = bytes.data.toList[i] := by
      show bytes.data[i]! = _
      rw [getElem!_pos bytes.data i (by simpa using lt)]
      rfl
    rw [ih, List.drop_eq_getElem_cons lt, byte, List.reverse_cons, List.append_assoc]
    rfl
  | case2 i done outside =>
    have past : bytes.data.toList.length ≤ i := by simpa using outside
    rw [List.drop_eq_nil_of_le past, List.append_nil]

theorem toList_eq_data (bytes : ByteArray) : bytes.toList = bytes.data.toList := by
  rw [ByteArray.toList, toList_loop]
  rfl

/-- The bytes of a text are those of its characters, in order. -/
theorem toUTF8_toList (text : String) :
    text.toUTF8.toList = text.toList.flatMap String.utf8EncodeChar := by
  have encoded : text.toUTF8 = text.toList.utf8Encode := String.utf8Encode_toList.symm
  rw [toList_eq_data, encoded, List.utf8Encode, List.data_toByteArray]

/-- A character is the one byte that is its number, or several bytes beyond those. -/
theorem utf8EncodeChar_cases (c : Char) :
    (c.toNat < 128 ∧ String.utf8EncodeChar c = [UInt8.ofNat c.toNat]) ∨
      (128 ≤ c.toNat ∧ ∀ b ∈ String.utf8EncodeChar c, 128 ≤ b.toNat) := by
  have number : c.val.toNat = c.toNat := rfl
  unfold String.utf8EncodeChar
  simp only [number]
  split
  · next one => exact .inl ⟨by omega, rfl⟩
  · next more =>
    refine .inr ⟨by omega, ?_⟩
    split
    · simp only [List.mem_cons, List.not_mem_nil, or_false, forall_eq_or_imp, forall_eq,
        UInt8.toNat_ofNat']
      omega
    · split <;>
      · simp only [List.mem_cons, List.not_mem_nil, or_false, forall_eq_or_imp, forall_eq,
          UInt8.toNat_ofNat']
        omega

theorem fromUTF8?_toUTF8 (text : String) :
    String.fromUTF8? ⟨text.toUTF8.toList.toArray⟩ = some text := by
  rw [toList_eq_data, Array.toArray_toList]
  exact dif_pos text.isValidUTF8

end AdminPanel.Text
