import AdminPanel.Proofs.FileTree.Replacing
import AdminPanel.Proofs.Storage.Items

/-!
# The contents of a storage file

A storage file is absent, blank, or holds a document; each of them stands for items (`Contents`),
and reading the file gives exactly these (`readItems_eq_ok_iff`). Whatever a file holds, replacing
it leaves a document of the new items (`holdsDocument_of_replaceItems`), and a path that could be
replaced once can be replaced ever after (`replaceable_of_replaceItems`).
-/

namespace AdminPanel.Storage

open Json (Members.Sorted)

variable {files files' : FileTree} {path : FilePath} {items : Items}

/-! ## What a file stands for -/

/-- The file at a path holds a document of items. -/
def HoldsDocument (files : FileTree) (path : FilePath) (items : Items) : Prop :=
  ∃ text, files.readText path = .ok text ∧ Json.Reader.stringMembers.readAll text = .ok items

/-- What stands at the path of a storage, and the items that it stands for. -/
inductive Contents (files : FileTree) (path : FilePath) : Items → Prop
  | absent (missing : files.hasNode path = false) : Contents files path []
  | blank (text : String) (found : files.readText path = .ok text)
      (blank : Text.isAllBlank text) : Contents files path []
  | document (items : Items) (h : HoldsDocument files path items) : Contents files path items

theorem hasNode_of_readText {text : String} (h : files.readText path = .ok text) :
    files.hasNode path = true := by
  unfold FileTree.hasNode
  cases looked : files.look path with
  | ok node => rfl
  | error e =>
    have failed : files.readText path = .error e := by
      rw [FileTree.readText, FileTree.readBytes, looked]
      rfl
    rw [failed] at h
    cases h

/-- Items are read as their document says, unless it is blank. -/
theorem readItems_of_readText {text : String} (h : files.readText path = .ok text) :
    readItems files path =
      match Items.ofDocument text with
      | .error e => .error (.corrupt e)
      | .ok items => .ok items := by
  rw [readItems, hasNode_of_readText h, h]
  rfl

/-- **Reading a storage file gives exactly what it stands for.** -/
theorem readItems_eq_ok_iff : readItems files path = .ok items ↔ Contents files path items := by
  constructor
  · intro h
    cases found : files.hasNode path with
    | false =>
      rw [readItems, found] at h
      cases h
      exact .absent found
    | true =>
      cases read : files.readText path with
      | error e => simp [readItems, found, read] at h
      | ok text =>
        rw [readItems_of_readText read] at h
        cases parsed : Items.ofDocument text with
        | error e => simp [parsed] at h
        | ok items' =>
          rw [parsed] at h
          cases h
          -- a text that can be read is blank or a document
          unfold Items.ofDocument at parsed
          split at parsed
          · next blank =>
            cases parsed
            exact .blank text read blank
          · exact .document items ⟨text, read, parsed⟩
  · intro h
    cases h with
    | absent missing => rw [readItems, missing]; rfl
    | blank text found blank =>
      rw [readItems_of_readText found, Items.ofDocument, if_pos blank]
    | document items document =>
      obtain ⟨text, found, parsed⟩ := document
      have full : ¬ Text.isAllBlank text := by
        simp [Json.Reader.not_isAllBlank_of_readAll_stringMembers parsed]
      rw [readItems_of_readText found, Items.ofDocument, if_neg full, parsed]

theorem Contents.sorted (h : Contents files path items) : Members.Sorted items := by
  cases h with
  | absent => exact List.Pairwise.nil
  | blank => exact List.Pairwise.nil
  | document items document =>
    obtain ⟨text, -, parsed⟩ := document
    exact Json.Reader.sorted_of_readAll_stringMembers parsed

/-! ## Replacing the file -/

/-- A replacement makes the directories that are missing, and then puts the document in place. -/
theorem replaceItems_eq_ok_iff :
    replaceItems files path items = .ok files' ↔
      ∃ made, files.makeDirs (FileTree.parentPath path) = .ok made ∧
        made.replace path items.document.toUTF8.toList = .ok files' := by
  unfold replaceItems
  cases files.makeDirs (FileTree.parentPath path) with
  | error e => simp
  | ok made =>
    simp only [Except.ok.injEq, exists_eq_left']
    cases made.replace path items.document.toUTF8.toList <;> simp

/-- **After a replacement the file holds the document of the new items.** -/
theorem holdsDocument_of_replaceItems (sorted : Members.Sorted items)
    (h : replaceItems files path items = .ok files') : HoldsDocument files' path items := by
  obtain ⟨made, -, replaced⟩ := replaceItems_eq_ok_iff.mp h
  have parsed := Items.ofDocument_document sorted
  rw [Items.ofDocument, Items.not_isAllBlank_document] at parsed
  exact ⟨items.document, FileTree.readText_of_replace replaced, parsed⟩

/-- A path at which the system lets a file be replaced, whatever is to be written. -/
def Replaceable (files : FileTree) (path : FilePath) : Prop :=
  ∃ made, files.makeDirs (FileTree.parentPath path) = .ok made ∧
    ∀ bytes, ∃ files', made.replace path bytes = .ok files'

/-- Replacing either fails as the file system does, which it cannot where a file can be replaced,
or it succeeds. -/
theorem replaceItems_cases (files : FileTree) (path : FilePath) (items : Items) :
    (∃ f, replaceItems files path items = .error (.io f) ∧ ¬ Replaceable files path) ∨
      ∃ files', replaceItems files path items = .ok files' := by
  unfold replaceItems
  -- the parent directories or the file itself: each failure is one that `Replaceable` excludes
  cases hmade : files.makeDirs (FileTree.parentPath path) with
  | error e =>
    refine .inl ⟨e, rfl, ?_⟩
    rintro ⟨made, hmade', -⟩
    rw [hmade] at hmade'
    cases hmade'
  | ok made =>
    cases replaced : made.replace path items.document.toUTF8.toList with
    | error e =>
      refine .inl ⟨e, by simp only [replaced], ?_⟩
      rintro ⟨made', hmade', hreplace⟩
      rw [hmade] at hmade'
      cases hmade'
      obtain ⟨files', succeeded⟩ := hreplace items.document.toUTF8.toList
      rw [replaced] at succeeded
      cases succeeded
    | ok files' => exact .inr ⟨files', by simp only [replaced]⟩

/-- Whether a file can be replaced does not depend on what is to be written. -/
theorem replaceable_of_replaced (h : replaceItems files path items = .ok files') :
    Replaceable files path := by
  obtain ⟨made, directories, replaced⟩ := replaceItems_eq_ok_iff.mp h
  obtain ⟨front, name, parent, rfl, lands, free, -⟩ := FileTree.replace_cases replaced
  exact ⟨made, directories, fun bytes => ⟨_, lands.replace_eq free bytes⟩⟩

/-- A file that has been replaced once can be replaced again: its directory is there now, and
what stands at its place is a file. -/
theorem replaceable_of_replaceItems (h : replaceItems files path items = .ok files') :
    Replaceable files' path := by
  obtain ⟨made, -, replaced⟩ := replaceItems_eq_ok_iff.mp h
  -- the file stands now where it was put, below a directory that is there
  obtain ⟨front, name, parent, rfl, lands, free, rfl⟩ := FileTree.replace_cases replaced
  have again := lands.put free (.file ⟨items.document.toUTF8.toList, true⟩)
  refine ⟨_, FileTree.makeDirs_of_lands again, fun bytes => ⟨_, again.replace_eq ?_ bytes⟩⟩
  rw [FileTree.node?_put_self _ (by simp)]
  simp

/-! ## Updates -/

/-- What an operation that succeeds does to the files: it leaves them and the items as they are, or
it replaces the file by a document of the new items. -/
inductive Updated (path : FilePath) (files : FileTree) (items : Items) :
    FileTree → Items → Prop
  | same : Updated path files items files items
  | written (files' : FileTree) (items' : Items) (document : HoldsDocument files' path items')
      (again : Replaceable files' path) : Updated path files items files' items'

namespace Updated

variable {files'' : FileTree} {items' items'' : Items}

theorem of_replaceItems (sorted : Members.Sorted items')
    (h : replaceItems files path items' = .ok files') :
    Updated path files items files' items' :=
  .written files' items' (holdsDocument_of_replaceItems sorted h) (replaceable_of_replaceItems h)

theorem trans (h : Updated path files items files' items')
    (h' : Updated path files' items' files'' items'') :
    Updated path files items files'' items'' := by
  cases h' with
  | same => exact h
  | written _ _ document again => exact .written _ _ document again

theorem contents (h : Updated path files items files' items') (before : Contents files path items) :
    Contents files' path items' := by
  cases h with
  | same => exact before
  | written _ _ document => exact .document items' document

theorem eq_or_replaceable (h : Updated path files items files' items') :
    files' = files ∨ Replaceable files' path := by
  cases h with
  | same => exact .inl rfl
  | written _ _ _ again => exact .inr again

theorem replaceable (h : Updated path files items files' items')
    (before : Replaceable files path) : Replaceable files' path := by
  cases h with
  | same => exact before
  | written _ _ _ again => exact again

end Updated

end AdminPanel.Storage
