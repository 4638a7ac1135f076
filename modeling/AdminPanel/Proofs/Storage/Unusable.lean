import AdminPanel.Proofs.FileTree.Elsewhere
import AdminPanel.Proofs.Json.Documents
import AdminPanel.Proofs.Storage.Contents

/-!
# Files that stand for no items

What stands at the path of a storage and cannot be read as items: a directory, bytes that are no text,
a text that is no document of strings (`Unusable`). Reading fails there and nowhere else
(`readItems_eq_error_iff`), so that nothing of this kind is taken for an empty storage.
-/

namespace AdminPanel.Storage

variable {files : FileTree} {path : FilePath}

/-- What stands for no items: a directory, or a file whose bytes are no text, or whose text is neither
blank nor a document of items. -/
inductive Unusable (files : FileTree) (path : FilePath) : Prop where
  | directory (found : files.look path = .ok .directory)
  | notText (f : FileNode) (found : files.look path = .ok (.file f))
      (notUtf8 : String.fromUTF8? ⟨f.bytes.toArray⟩ = none)
  | corrupt (text : String) (found : files.readText path = .ok text)
      (full : Text.isAllBlank text = false) (noDocument : ∀ items, ¬ HoldsDocument files path items)

/-- A text that is no document, or the document of another value than an object of strings. -/
theorem unusable_of_not_isDocument {text : String} (found : files.readText path = .ok text)
    (full : Text.isAllBlank text = false)
    (other : ∀ items : Items,
      ¬ Json.IsDocument text.toList (.object (items.map fun m => (m.1, .string m.2)))) :
    Unusable files path := by
  refine .corrupt text found full fun items => ?_
  rintro ⟨text', found', read⟩
  rw [found] at found'
  cases found'
  exact other items (Json.isDocument_of_readAll_stringMembers read)

theorem Unusable.hasNode (h : Unusable files path) : files.hasNode path = true := by
  cases h with
  | directory found | notText f found notUtf8 =>
    rw [FileTree.hasNode, found]
    rfl
  | corrupt text found full noDocument => exact hasNode_of_readText found

theorem Unusable.not_contents (h : Unusable files path) (items : Items) :
    ¬ Contents files path items := by
  have readable : Contents files path items → ∃ text, files.readText path = .ok text ∧
      (Text.isAllBlank text = true ∨ HoldsDocument files path items) := by
    intro contents
    cases contents with
    | absent missing =>
      rw [h.hasNode] at missing
      cases missing
    | blank text found blank => exact ⟨text, found, .inl blank⟩
    | document _ document =>
      obtain ⟨text, found, read⟩ := document
      exact ⟨text, found, .inr ⟨text, found, read⟩⟩
  intro contents
  obtain ⟨text, found, holds⟩ := readable contents
  cases h with
  | directory looked =>
    obtain ⟨f, looked'⟩ := FileTree.file_of_readText found
    rw [looked] at looked'
    cases looked'
  | notText f looked notUtf8 =>
    have bytes : files.readBytes path = .ok f.bytes := by
      rw [FileTree.readBytes, looked]
      rfl
    rw [FileTree.readText, bytes] at found
    simp [bind, Except.bind, notUtf8] at found
  | corrupt text' found' full noDocument =>
    rw [found] at found'
    cases found'
    rcases holds with blank | document
    · rw [full] at blank
      cases blank
    · exact noDocument items document

/-- **Items cannot be read exactly from what is unusable.** -/
theorem readItems_eq_error_iff : (∃ e, readItems files path = .error e) ↔ Unusable files path := by
  constructor
  · rintro ⟨e, failed⟩
    rcases looked : files.look path with e' | (f | _)
    · -- what cannot be found is no failure
      have missing : files.hasNode path = false := by
        rw [FileTree.hasNode, looked]
        rfl
      rw [readItems_eq_ok_iff.mpr (.absent missing)] at failed
      cases failed
    -- the file is found: its bytes are no text, or the text is neither blank nor a document
    · cases text? : String.fromUTF8? ⟨f.bytes.toArray⟩ with
      | none => exact .notText f looked text?
      | some text =>
        have found : files.readText path = .ok text := by
          have bytes : files.readBytes path = .ok f.bytes := by
            rw [FileTree.readBytes, looked]
            rfl
          rw [FileTree.readText, bytes]
          simp only [bind, Except.bind, text?]
        have none (items : Items) : ¬ Contents files path items := by
          intro contents
          rw [readItems_eq_ok_iff.mpr contents] at failed
          cases failed
        refine .corrupt text found ?_ fun items document => none items (.document items document)
        cases full : Text.isAllBlank text with
        | false => rfl
        | true => exact absurd (.blank text found full) (none [])
    · exact .directory looked
  · intro unusable
    cases read : readItems files path with
    | error e => exact ⟨e, rfl⟩
    | ok items =>
      exact absurd (readItems_eq_ok_iff.mp read) (unusable.not_contents items)

end AdminPanel.Storage
