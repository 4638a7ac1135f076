import AdminPanel.Proofs.Settings.RoundTrip
import AdminPanel.Proofs.Storage.Frame

/-!
# What the settings file says

The settings file beside a storage that changes: what it says depends only on what is found at its path
(`load_congr`), and keeping an item in a storage file leaves that alone (`saysInPlace_of_kept`). Making the
directories of the storage can complete a path with ways up in it, and so bring a settings file to light
that could not be found before. If nothing is so hidden (`Apparent`), the settings file says what has been
loaded from it (`SaysInPlace.eq_of_load`).
-/

namespace AdminPanel.Settings

open FileTree (IsProper)
open Storage (Kept)

variable {s s' : Settings} {files files' : FileTree} {path front : FilePath} {name other : String}

/-- What the settings file says. A file that cannot be loaded says nothing. -/
def onDisk (files : FileTree) (path : FilePath) : Settings :=
  match load files path with
  | .ok s => s
  | .error _ => {}

/-- What the settings file says in its place: it may only be found once directories on the way to it
have been made. -/
def SaysInPlace (files : FileTree) (path : FilePath) (s : Settings) : Prop :=
  ∃ grown, FileTree.Grown files grown ∧ s = onDisk grown path

/-- What stands at a path stands there for all to see: it can be found, or no file is at the place that
the path comes to name when its directories are made. -/
def Apparent (files : FileTree) (path : FilePath) : Prop :=
  files.hasNode path = true ∨
    (".." ∉ path ∧ ∀ f, files.node? (path.filter (IsProper ·)) ≠ some (.file f))

theorem load_congr (h : files'.look path = files.look path) : load files' path = load files path := by
  have node : files'.hasNode path = files.hasNode path := by
    rw [FileTree.hasNode, h, FileTree.hasNode]
  rw [load, load, node, FileTree.readText_congr h]

theorem onDisk_congr (h : ∀ n, files'.look path = .ok n ↔ files.look path = .ok n) :
    onDisk files' path = onDisk files path := by
  cases looked : files.look path with
  | ok n => rw [onDisk, load_congr (((h n).mpr looked).trans looked.symm), onDisk]
  | error e =>
    have missing : files.hasNode path = false := by
      rw [FileTree.hasNode, looked]
      rfl
    have missing' : files'.hasNode path = false := by
      cases looked' : files'.look path with
      | ok n =>
        rw [(h n).mp looked'] at looked
        cases looked
      | error e' =>
        rw [FileTree.hasNode, looked']
        rfl
    simp [onDisk, load, missing, missing']

/-- What stands at a path and is no file has no settings in it. -/
theorem onDisk_of_not_file (h : ∀ f, files.look path ≠ .ok (.file f)) : onDisk files path = {} := by
  unfold onDisk load
  cases node : files.hasNode path with
  | false => rfl
  | true =>
    cases read : files.readText path with
    | error e => rfl
    | ok text =>
      obtain ⟨f, looked⟩ := FileTree.file_of_readText read
      exact absurd looked (h f)

/-- Keeping an item elsewhere leaves what the settings file says in its place. -/
theorem saysInPlace_of_kept (proper : IsProper other) (ne : other ≠ name)
    (kept : Kept name files files') :
    SaysInPlace files (front ++ [other]) (onDisk files' (front ++ [other])) := by
  obtain ⟨grown, directories, same⟩ := kept.exists_grown proper ne front
  exact ⟨grown, directories, onDisk_congr same⟩

/-- What the settings file says in its place is what has been loaded, if it is apparent. -/
theorem SaysInPlace.eq_of_load (h : SaysInPlace files path s') (apparent : Apparent files path)
    (loaded : load files path = .ok s) : s' = s := by
  obtain ⟨grown, directories, rfl⟩ := h
  -- what is there is found again; what is not there was read as the defaults, and still is not there
  cases looked : files.look path with
  | ok n => rw [onDisk, load_congr ((directories.look looked).trans looked.symm), loaded]
  | error e =>
    have missing : files.hasNode path = false := by
      rw [FileTree.hasNode, looked]
      rfl
    have defaults : s = {} := by
      rw [load, missing] at loaded
      exact (Except.ok.inj loaded).symm
    subst defaults
    rcases apparent with found | ⟨noUp, noFile⟩
    · rw [missing] at found
      cases found
    · refine onDisk_of_not_file fun f found => ?_
      obtain ⟨-, r, walked⟩ := FileTree.look_eq_ok_iff.mp found
      have place := FileTree.eq_of_walk noUp walked
      rw [List.nil_append] at place
      exact noFile f (place ▸ directories.node?_file (FileTree.node?_of_walk walked))

/-- Saving settings leaves what is found at paths of other names. -/
theorem kept_of_save (h : s.save files (front ++ [name]) = .ok files') : Kept name files files' := by
  obtain ⟨made, directories, written⟩ := save_eq_ok_iff.mp h
  obtain ⟨front', name', parent, ownerOnly, hpath, -, free, rfl⟩ := FileTree.write_cases written
  obtain ⟨-, same⟩ := List.append_inj' hpath rfl
  cases same
  exact .put (FileTree.grown_of_makeDirs directories) free

end AdminPanel.Settings
