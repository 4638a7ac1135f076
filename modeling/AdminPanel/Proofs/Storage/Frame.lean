import AdminPanel.Proofs.FileTree.Differing
import AdminPanel.Proofs.Session.Token
import AdminPanel.Proofs.Storage.Laws

/-!
# What a storage leaves alone

A storage changes one file at most, and that is the one of its path. Seen from a path with another last
name, removing an item changes nothing at all (`look_of_remove`): there was a file to remove it from, so
no directory had to be made. Putting one may make directories, which leave whatever could be found where
it was (`Kept`).
-/

namespace AdminPanel

namespace Storage

open FileTree (IsProper Grown Lands DifferAt)

/-- A storage that changes no file of another name than its own. -/
def NamedFile (name : String) (s : Store) : Prop :=
  ∀ path, s.place = .file path → ∃ front, path = front ++ [name]

/-- What making room for a file and putting it there does to the tree. -/
inductive Kept (name : String) (t : FileTree) : FileTree → Prop where
  | same : Kept name t t
  | put {made : FileTree} {parent : FilePath} {f : FileNode} (grown : Grown t made)
      (free : made.node? (parent ++ [name]) ≠ some .directory) :
    Kept name t (made.put (parent ++ [name]) (.file f))

variable {s s' : Store} {files files' : FileTree} {name other item value : String}
  {front : FilePath}

theorem kept_of_replaceItems {path : FilePath} {items : Items} (named : path = front ++ [name])
    (h : replaceItems files path items = .ok files') : Kept name files files' := by
  obtain ⟨made, directories, replaced⟩ := replaceItems_eq_ok_iff.mp h
  obtain ⟨front', name', parent, hpath, -, free, rfl⟩ := FileTree.replace_cases replaced
  rw [named] at hpath
  obtain ⟨-, same⟩ := List.append_inj' hpath rfl
  cases same
  exact .put (FileTree.grown_of_makeDirs directories) free

theorem kept_of_set (named : NamedFile name s) (h : s.set item value = .ok s') :
    Kept name s.files s'.files := by
  obtain ⟨place, files⟩ := s
  cases place with
  | memory items =>
    cases h
    exact .same
  | file path =>
    obtain ⟨front, hpath⟩ := named path rfl
    rw [Store.set_file] at h
    cases read : readItems files path with
    | error e => simp [read] at h
    | ok items =>
      simp only [read] at h
      cases replaced : replaceItems files path (Json.Members.insert item value items) with
      | error e => simp [replaced] at h
      | ok files' =>
        rw [replaced] at h
        cases h
        exact kept_of_replaceItems hpath replaced
  | keychain =>
    cases h
    exact .same
  | refusing refusals items =>
    obtain ⟨-, rfl⟩ := Store.set_refusing_eq_ok_iff.mp h
    exact .same

/-- Items can only be removed from a file that is there. -/
theorem differAt_of_replaceItems {path : FilePath} {items : Items} {text : String}
    (named : path = front ++ [name]) (proper : IsProper name)
    (there : files.readText path = .ok text) (h : replaceItems files path items = .ok files') :
    ∃ parent, DifferAt (parent ++ [name]) files files' := by
  subst named
  obtain ⟨f, looked⟩ := FileTree.file_of_readText there
  obtain ⟨parent, lands, found⟩ := FileTree.lands_of_look proper looked
  obtain ⟨made, directories, replaced⟩ := replaceItems_eq_ok_iff.mp h
  rw [FileTree.makeDirs_of_lands lands] at directories
  cases directories
  rw [lands.replace_eq (by simp [found])] at replaced
  cases replaced
  exact ⟨parent, DifferAt.of_put found _⟩

/-- Removing an item shows at no path of another name. -/
theorem look_of_remove (named : NamedFile name s) (proper : IsProper name)
    (other_proper : IsProper other) (ne : other ≠ name) (h : s.remove item = .ok s') :
    s'.files.look (front ++ [other]) = s.files.look (front ++ [other]) := by
  obtain ⟨place, files⟩ := s
  cases place with
  | memory items =>
    cases h
    rfl
  | file path =>
    obtain ⟨front', hpath⟩ := named path rfl
    rw [Store.remove_file] at h
    cases read : readItems files path with
    | error e => simp [read] at h
    | ok items =>
      simp only [read] at h
      cases found : Json.Members.find? item items with
      | none =>
        simp only [found, Except.ok.injEq] at h
        subst h
        rfl
      | some v =>
        simp only [found] at h
        cases replaced : replaceItems files path (Json.Members.erase item items) with
        | error e => simp [replaced] at h
        | ok files' =>
          rw [replaced] at h
          cases h
          -- an absent or blank file holds no items
          cases readItems_eq_ok_iff.mp read with
          | absent => cases found
          | blank => cases found
          | document _ document =>
            obtain ⟨text, there, -⟩ := document
            obtain ⟨parent, differ⟩ := differAt_of_replaceItems hpath proper there replaced
            exact differ.look_of_name other_proper ne
  | keychain =>
    cases h
    rfl
  | refusing refusals items =>
    obtain ⟨-, rfl⟩ := Store.remove_refusing_eq_ok_iff.mp h
    rfl

/-! ## What is kept, seen from another path -/

namespace Kept

/-- What can be found at a path of another name can be found there once the directories are made. -/
theorem exists_grown (h : Kept name files files') (proper : IsProper other) (ne : other ≠ name)
    (front : FilePath) :
    ∃ grown, Grown files grown ∧
      ∀ n, files'.look (front ++ [other]) = .ok n ↔ grown.look (front ++ [other]) = .ok n := by
  cases h with
  | same => exact ⟨files, .refl, fun n => Iff.rfl⟩
  | @put made parent f grown free =>
    have apart {t : FileTree} {r : FilePath} {n : Node}
        (walked : t.walk [] (front ++ [other]) = .ok (r, n)) : parent ++ [name] ≠ r := by
      obtain ⟨parent', rfl⟩ := FileTree.exists_of_walk_concat proper walked
      intro meet
      exact ne (by simpa using (List.append_inj' meet rfl).2.symm)
    refine ⟨made, grown, fun n => ?_⟩
    rw [FileTree.look_eq_ok_iff, FileTree.look_eq_ok_iff]
    refine and_congr_right fun noNul => exists_congr fun r => ⟨fun walked => ?_, fun walked => ?_⟩
    · exact FileTree.walk_of_put (by simp) (apart walked) walked
    · exact FileTree.walk_put_of_ne free _ walked (apart walked)

theorem look (h : Kept name files files') (proper : IsProper other) (ne : other ≠ name)
    {n : Node} (found : files.look (front ++ [other]) = .ok n) :
    files'.look (front ++ [other]) = .ok n := by
  obtain ⟨grown, directories, same⟩ := h.exists_grown proper ne front
  exact (same n).mpr (directories.look found)

end Kept

/-! ## What reading an item depends on -/

theorem readItems_congr {path : FilePath} (h : files'.look path = files.look path) :
    readItems files' path = readItems files path := by
  have node : files'.hasNode path = files.hasNode path := by
    rw [FileTree.hasNode, h, FileTree.hasNode]
  rw [readItems, readItems, node, FileTree.readText_congr h]

/-- An item is read from the place, and from a file by what is found at its path. -/
theorem Store.get_congr (place : s'.place = s.place)
    (look : ∀ path, s.place = .file path → s'.files.look path = s.files.look path) (item : String) :
    s'.get item = s.get item := by
  obtain ⟨place', files'⟩ := s'
  obtain ⟨_, files⟩ := s
  obtain rfl := place
  cases place' with
  | memory | keychain | refusing => rfl
  | file path => rw [Store.get_file, Store.get_file, readItems_congr (look path rfl)]

/-- The file of a storage can be found once an item has been put there. -/
theorem look_of_set (h : s.set item value = .ok s') {path : FilePath} (place : s'.place = .file path) :
    ∃ f, s'.files.look path = .ok (.file f) := by
  obtain ⟨place', files⟩ := s
  cases place' with
  | memory | keychain =>
    cases h
    cases place
  | refusing refusals items =>
    obtain ⟨-, rfl⟩ := Store.set_refusing_eq_ok_iff.mp h
    cases place
  | file path' =>
    obtain ⟨items, files', -, rfl, contents⟩ := Store.contents_of_set h
    cases place
    -- an absent or blank file would not hold the item
    have found := Json.Members.find?_insert_self item value items
    generalize Json.Members.insert item value items = items' at contents found
    cases contents with
    | absent | blank => cases found
    | document _ document =>
      obtain ⟨text, there, -⟩ := document
      exact FileTree.file_of_readText there

/-- Making room for a file of another name leaves the items of a storage whose file can be found. -/
theorem Kept.get (kept : Kept other s.files files') (named : NamedFile name s)
    (proper : IsProper name) (ne : name ≠ other)
    (found : ∀ path, s.place = .file path → ∃ n, s.files.look path = .ok n) (item : String) :
    Store.get { s with files := files' } item = s.get item := by
  have look (path : FilePath) (place : s.place = .file path) :
      files'.look path = s.files.look path := by
    obtain ⟨n, looked⟩ := found path place
    obtain ⟨front, rfl⟩ := named path place
    exact (kept.look proper ne looked).trans looked.symm
  let left : Store := { s with files := files' }
  exact Store.get_congr (show left.place = s.place from rfl) look item

end Storage

end AdminPanel
