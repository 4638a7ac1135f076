import AdminPanel.Storage.Store
import AdminPanel.Proofs.Json.Members

/-!
# The document of a storage file

Items are kept in a file as one printed object of strings. Printing sorted items and reading the
document gives the same items (`ofDocument_document`), whatever characters they are made of.
-/

namespace AdminPanel.Storage.Items

open Json (Value stringChars bracketed printMembers)
open Json.Members (Sorted)
open Json.Reader

/-- The items as printed members. -/
def printed (items : Items) : List (Printed String) :=
  items.map fun m => (m.1, stringChars m.2.toList, m.2)

theorem document_eq (items : Items) :
    items.document.toList
      = bracketed '\x7b' '\x7d' 0 ((printed items).map fun m => memberText m.1 m.2.1) := by
  have members (ms : Items) :
      printMembers 1 (ms.map fun m => (m.1, Value.string m.2))
        = (printed ms).map fun m => memberText m.1 m.2.1 := by
    induction ms with
    | nil => rfl
    | cons m ms ih =>
      simp only [List.map_cons, printMembers, printed, ih]
      rfl
  unfold document Value.print
  rw [String.toList_ofList, Value.printChars]
  exact congrArg (bracketed '\x7b' '\x7d' 0) (members items)

theorem readsBack_typedString (expected value : String) :
    ReadsBack (typedString expected) (stringChars value.toList) value := by
  intro rest _
  have chars : ' ' :: (stringChars value.toList ++ rest)
      = [' '] ++ '"' :: (value.toList.flatMap Json.escapeChar ++ '"' :: rest) := by
    simp [stringChars]
  rw [chars]
  refine (reads_peekToken _ _ (by simp [isSeparator]) (by simp [isSeparator])).bind ?_
  exact (reads_skip '"' _).bind (reads_string value rest)

theorem insertAll_printed {items : Items} (h : Sorted items) :
    Printed.insertAll (printed items) [] = items := by
  have rebuilt := Json.Members.foldl_insert h
  unfold Printed.insertAll printed
  rw [List.foldl_map]
  exact rebuilt

/-- The document is read back as the items. -/
theorem reads_stringMembers {items : Items} (h : Sorted items) :
    Reads stringMembers items.document.toList items [] := by
  obtain ⟨chars, hchars⟩ : ∃ chars,
      bracketed '\x7b' '\x7d' 0 ((printed items).map fun m => memberText m.1 m.2.1)
        = '\x7b' :: chars := by
    cases printed items <;> exact ⟨_, rfl⟩
  have strings : ∀ m ∈ printed items, ReadsBack (typedString "a string") m.2.1 m.2.2 := by
    intro m hm
    obtain ⟨item, _, rfl⟩ := List.mem_map.mp hm
    exact readsBack_typedString _ _
  -- a member takes at least as many characters as turns of the reader
  have enough : (printed items).length < chars.length + 1 := by
    have parts := length_le_bracketed '\x7b' '\x7d' 0
      ((printed items).map fun m => memberText m.1 m.2.1)
    rw [hchars, List.length_map, List.length_cons] at parts
    omega
  rw [document_eq, hchars]
  refine (reads_peekToken_cons (by decide) _).bind ?_
  refine (reads_skip _ chars).bind ?_
  refine (reads_remaining chars).bind ?_
  have read := reads_members 0 (printed items) [] _ strings enough chars hchars
  rw [insertAll_printed h, List.append_nil] at read
  exact read

/-- A document of items starts with a brace, so that it is not blank. -/
theorem not_isAllBlank_document (items : Items) : Text.isAllBlank items.document = false := by
  have brace : '\x7b' ∈ items.document.toList := by
    rw [document_eq]
    cases printed items <;> simp [bracketed]
  simp only [Text.isAllBlank, List.all_eq_false]
  exact ⟨_, brace, by decide⟩

/-- Printing sorted items and reading the document gives the items. -/
theorem ofDocument_document {items : Items} (h : Sorted items) :
    ofDocument items.document = .ok items := by
  rw [ofDocument, not_isAllBlank_document]
  exact readAll_of_reads (reads_stringMembers h) (by simp)

end AdminPanel.Storage.Items
