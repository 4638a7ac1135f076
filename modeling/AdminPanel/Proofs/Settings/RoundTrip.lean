import AdminPanel.Proofs.FileTree.Writing
import AdminPanel.Proofs.Settings.Document
import AdminPanel.Proofs.Storage.Contents
import AdminPanel.Settings.Files

/-!
# The settings file, written and read

What is saved is loaded again, and what anybody has written there by hand is loaded as it says
(`load_settings`). Both come down to the document: the file gives its text back
(`FileTree.readText_of_write`), and the text its settings (`ofDocument_of_isDocument`).
-/

namespace AdminPanel.Settings

variable {s : Settings} {files files' : FileTree} {path : FilePath}

/-! ## Loading -/

theorem load_of_readText {text : String} (h : files.readText path = .ok text) :
    load files path =
      match ofDocument text with
      | .error e => .error (.document e)
      | .ok s => .ok s := by
  rw [load, Storage.hasNode_of_readText h, h]
  rfl

theorem load_of_ofDocument {text : String} (h : files.readText path = .ok text)
    (read : ofDocument text = .ok s) : load files path = .ok s := by
  rw [load_of_readText h, read]

/-! ## Saving -/

/-- Saving makes the directories that are missing, and then writes the document. -/
theorem save_eq_ok_iff :
    s.save files path = .ok files' ↔
      ∃ made, files.makeDirs (FileTree.parentPath path) = .ok made ∧
        made.write path s.document.toUTF8.toList = .ok files' := by
  unfold save
  cases files.makeDirs (FileTree.parentPath path) with
  | error e => simp [Bind.bind, Except.bind]
  | ok made => simp [Bind.bind, Except.bind]

theorem readText_of_save (h : s.save files path = .ok files') :
    files'.readText path = .ok s.document := by
  obtain ⟨made, -, written⟩ := save_eq_ok_iff.mp h
  exact FileTree.readText_of_write written

theorem load_of_save (h : s.save files path = .ok files') : load files' path = .ok s :=
  load_of_ofDocument (readText_of_save h) (ofDocument_document s)

/-- Whether settings can be saved does not depend on what they are. -/
theorem save_isOk_congr (s s' : Settings) (files : FileTree) (path : FilePath) :
    (s.save files path).isOk = (s'.save files path).isOk := by
  unfold save
  cases files.makeDirs (FileTree.parentPath path) with
  | error e => rfl
  | ok made => exact FileTree.write_isOk_congr made path _ _

/-- **The settings file.** Settings that have been saved are loaded from the same path as they were,
whatever they are; and that a path can be saved to is the same for all settings.

A file that anybody has written is loaded as it says: if its text is an object that holds, in any
order and spelled in any way, some of the five members, each once, and any members of other names,
then what it holds counts and the rest has its defaults. -/
theorem load_settings (files : FileTree) (path : FilePath) :
    (∀ (s : Settings) (files' : FileTree), s.save files path = .ok files' →
      load files' path = .ok s) ∧
    (∀ s s' : Settings, (s.save files path).isOk = (s'.save files path).isOk) ∧
    (∀ (s : Settings) (names : List String) (text : String), files.readText path = .ok text →
      IsDocument s names text.toList → (∀ name ∈ memberNames, names.count name ≤ 1) →
      load files path = .ok (s.only names)) := by
  refine ⟨fun s files' saved => load_of_save saved, fun s s' => save_isOk_congr s s' files path, ?_⟩
  intro s names text found document once
  have read := ofDocument_of_isDocument document once
  rw [String.ofList_toList] at read
  exact load_of_ofDocument found read

/-- Settings that are saved to a new file, and the same ones from a file that says where tokens are
kept and something about a later version. -/
theorem load_settings_memory :
    let s : Settings := { backend := .memory }
    let text := "\x7b\"later\":[1],\"storage\":\"memory\"\x7d"
    let written : FileTree := ⟨[(["c"], .file ⟨text.toUTF8.toList, false⟩)]⟩
    (∃ files', s.save {} ["c"] = .ok files' ∧ load files' ["c"] = .ok s) ∧
      load written ["c"] = .ok s := by
  intro s text written
  refine ⟨⟨_, rfl, (load_settings {} ["c"]).1 s _ rfl⟩, ?_⟩
  have found : written.readText ["c"] = .ok text := FileTree.readText_of_look rfl
  have one : Json.IsText .value ['1'] :=
    .number ⟨['1'], [], [], rfl, .inr ⟨⟨by simp, by simp⟩, by simp⟩, .inl rfl, .inl rfl⟩
  have later : Gives s "later" ['[', '1', ']'] :=
    .unknown (by decide) (.list Json.isGap_nil (.lastItem one Json.isGap_nil))
  have storage : Gives s "storage" (Json.stringChars "memory".toList) :=
    .storage (Json.spells_stringChars "memory")
  have members := IsMembers.member (Json.spellsChars_flatMap "later".toList) Json.isGap_nil
    Json.isGap_nil later Json.isGap_nil Json.isGap_nil
    (.last (Json.spellsChars_flatMap "storage".toList) Json.isGap_nil Json.isGap_nil storage
      Json.isGap_nil)
  have document : IsDocument s ["later", "storage"] text.toList := by
    simpa [text, Json.stringChars, Json.escapeChar] using
      IsDocument.members Json.isGap_nil Json.isGap_nil members Json.isGap_nil
  exact (load_settings written ["c"]).2.2 s ["later", "storage"] text found document (by decide)

end AdminPanel.Settings
