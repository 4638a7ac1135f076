import AdminPanel.Proofs.Storage.Contents

/-!
# The laws of a storage

Reading after writing and after removing, for storages of every place: in memory, in a file, in a
keychain, and refusing. A write that succeeds decides what is read under its name and nothing
else. A keychain of which there is none acknowledges writes and forgets them, and a storage may
refuse to be read, so that the laws for the written name speak of what is read, if anything is.

The files come in through `Contents` alone.
-/

namespace AdminPanel.Storage.Store

open Json (Members.find? Members.insert Members.erase)

variable {s s' : Store} {name other value : String}

/-! ## Operations on a file -/

variable {files : FileTree} {path : FilePath}

theorem get_file :
    get ⟨.file path, files⟩ name =
      match readItems files path with
      | .error e => .error e
      | .ok items => .ok (Members.find? name items) := by
  simp only [get, Bind.bind, Except.bind]
  cases readItems files path <;> rfl

theorem set_file :
    set ⟨.file path, files⟩ name value =
      match readItems files path with
      | .error e => .error e
      | .ok items =>
        match replaceItems files path (Members.insert name value items) with
        | .error e => .error e
        | .ok files' => .ok ⟨.file path, files'⟩ := by
  simp only [set, Bind.bind, Except.bind]
  cases readItems files path with
  | error e => rfl
  | ok items =>
    simp only
    cases replaceItems files path (Members.insert name value items) <;> rfl

theorem remove_file :
    remove ⟨.file path, files⟩ name =
      match readItems files path with
      | .error e => .error e
      | .ok items =>
        match Members.find? name items with
        | none => .ok ⟨.file path, files⟩
        | some _ =>
          match replaceItems files path (Members.erase name items) with
          | .error e => .error e
          | .ok files' => .ok ⟨.file path, files'⟩ := by
  simp only [remove, Bind.bind, Except.bind]
  cases readItems files path with
  | error e => rfl
  | ok items =>
    simp only
    cases Members.find? name items with
    | none => rfl
    | some found => cases replaceItems files path (Members.erase name items) <;> rfl

/-- What a file stands for decides what is read from it. -/
theorem get_of_contents {items : Items} (h : Contents files path items) (name : String) :
    get ⟨.file path, files⟩ name = .ok (Members.find? name items) := by
  rw [get_file, readItems_eq_ok_iff.mpr h]

/-- What a write does to a file that stands for items: it puts the item among them, unless the
file system fails. -/
theorem set_of_contents {items : Items} (h : Contents files path items) (name value : String) :
    (∃ f, set ⟨.file path, files⟩ name value = .error (.io f) ∧ ¬ Replaceable files path) ∨
      ∃ files', set ⟨.file path, files⟩ name value = .ok ⟨.file path, files'⟩ ∧
        Updated path files items files' (Members.insert name value items) := by
  rw [set_file, readItems_eq_ok_iff.mpr h]
  rcases replaceItems_cases files path (Members.insert name value items) with
    ⟨f, failed, stuck⟩ | ⟨files', replaced⟩
  · exact .inl ⟨f, by simp only [failed], stuck⟩
  · have sorted := Json.Members.sorted_insert name value h.sorted
    exact .inr ⟨files', by simp only [replaced], .of_replaceItems sorted replaced⟩

/-- What a removal does to a file that stands for items: it takes the item from them, unless the
file system fails. Where there is nothing to take, the files stay as they are. -/
theorem remove_of_contents {items : Items} (h : Contents files path items) (name : String) :
    (∃ f, remove ⟨.file path, files⟩ name = .error (.io f) ∧ ¬ Replaceable files path) ∨
      ∃ files', remove ⟨.file path, files⟩ name = .ok ⟨.file path, files'⟩ ∧
        Updated path files items files' (Members.erase name items) ∧
        (Members.find? name items = none → files' = files) := by
  rw [remove_file, readItems_eq_ok_iff.mpr h]
  cases found : Members.find? name items with
  | none =>
    have same : Members.erase name items = items := Json.Members.erase_of_find?_eq_none found
    refine .inr ⟨files, by simp only [found], ?_, fun _ => rfl⟩
    rw [same]
    exact .same
  | some v =>
    rcases replaceItems_cases files path (Members.erase name items) with
      ⟨f, failed, stuck⟩ | ⟨files', replaced⟩
    · exact .inl ⟨f, by simp only [found, failed], stuck⟩
    · have sorted := Json.Members.sorted_erase name h.sorted
      refine .inr ⟨files', by simp only [found, replaced], .of_replaceItems sorted replaced, ?_⟩
      intro absent
      cases absent

/-- A write to a file succeeds only if the file stands for items, and puts the item among them. -/
theorem contents_of_set (h : set ⟨.file path, files⟩ name value = .ok s') :
    ∃ items files', Contents files path items ∧ s' = ⟨.file path, files'⟩ ∧
      Contents files' path (Members.insert name value items) := by
  cases read : readItems files path with
  | error e => simp [set_file, read] at h
  | ok items =>
    have before := readItems_eq_ok_iff.mp read
    rcases set_of_contents before name value with ⟨f, failed, -⟩ | ⟨files', done, updated⟩
    · rw [failed] at h
      cases h
    · rw [done] at h
      cases h
      exact ⟨items, files', before, rfl, updated.contents before⟩

/-- A removal from a file succeeds only if the file stands for items, and takes the item from
them. -/
theorem contents_of_remove (h : remove ⟨.file path, files⟩ name = .ok s') :
    ∃ items files', Contents files path items ∧ s' = ⟨.file path, files'⟩ ∧
      Contents files' path (Members.erase name items) := by
  cases read : readItems files path with
  | error e => simp [remove_file, read] at h
  | ok items =>
    have before := readItems_eq_ok_iff.mp read
    rcases remove_of_contents before name with ⟨f, failed, -⟩ | ⟨files', done, updated, -⟩
    · rw [failed] at h
      cases h
    · rw [done] at h
      cases h
      exact ⟨items, files', before, rfl, updated.contents before⟩

/-! ## Operations on a storage that refuses -/

theorem set_refusing_eq_ok_iff {refusals : Refusals} {items : Items} :
    set ⟨.refusing refusals items, files⟩ name value = .ok s' ↔
      refusals.set = false ∧ s' = ⟨.refusing refusals (Members.insert name value items), files⟩ := by
  simp only [set]
  cases refusals.set <;> simp [eq_comm]

theorem remove_refusing_eq_ok_iff {refusals : Refusals} {items : Items} :
    remove ⟨.refusing refusals items, files⟩ name = .ok s' ↔
      refusals.remove = false ∧ s' = ⟨.refusing refusals (Members.erase name items), files⟩ := by
  simp only [remove]
  cases refusals.remove <;> simp [eq_comm]

/-! ## Reading after writing -/

theorem get_set_self (h : s.set name value = .ok s') {v : String}
    (read : s'.get name = .ok (some v)) : v = value := by
  obtain ⟨place, files⟩ := s
  cases place with
  | memory items =>
    cases h
    simpa [get] using read.symm
  | file path =>
    obtain ⟨items, files', -, rfl, after⟩ := contents_of_set h
    rw [get_of_contents after] at read
    simpa using read.symm
  | keychain =>
    cases h
    simp [get] at read
  | refusing refusals items =>
    -- a write that succeeds was not refused; whether it can be read back is another matter
    obtain ⟨-, rfl⟩ := set_refusing_eq_ok_iff.mp h
    by_cases hidden : refusals.get
    · simp [get, hidden] at read
    · simpa [get, hidden] using read.symm

/-- What has been written is read back, if the name could be read before; only a keychain forgets
it. -/
theorem get_set_of_readable (h : s.set name value = .ok s') (place : s.place ≠ .keychain)
    {v : Option String} (readable : s.get name = .ok v) : s'.get name = .ok (some value) := by
  obtain ⟨place', files⟩ := s
  cases place' with
  | memory items =>
    cases h
    simp [get]
  | file path =>
    obtain ⟨items, files', -, rfl, after⟩ := contents_of_set h
    rw [get_of_contents after, Json.Members.find?_insert_self]
  | keychain => exact absurd rfl place
  | refusing refusals items =>
    have readable' : refusals.get = false := by
      cases hidden : refusals.get with
      | false => rfl
      | true => simp [get, hidden] at readable
    obtain ⟨-, rfl⟩ := set_refusing_eq_ok_iff.mp h
    simp [get, readable']

theorem get_set_of_ne (h : s.set name value = .ok s') (ne : other ≠ name) :
    s'.get other = s.get other := by
  obtain ⟨place, files⟩ := s
  cases place with
  | memory items =>
    cases h
    simp [get, Json.Members.find?_insert_of_ne ne]
  | file path =>
    obtain ⟨items, files', before, rfl, after⟩ := contents_of_set h
    rw [get_of_contents after, get_of_contents before, Json.Members.find?_insert_of_ne ne]
  | keychain =>
    cases h
    rfl
  | refusing refusals items =>
    obtain ⟨-, rfl⟩ := set_refusing_eq_ok_iff.mp h
    simp [get, Json.Members.find?_insert_of_ne ne]

/-! ## Reading after removing -/

theorem get_remove_self (h : s.remove name = .ok s') (v : String) :
    s'.get name ≠ .ok (some v) := by
  intro read
  obtain ⟨place, files⟩ := s
  cases place with
  | memory items =>
    cases h
    simp [get] at read
  | file path =>
    obtain ⟨items, files', -, rfl, after⟩ := contents_of_remove h
    rw [get_of_contents after] at read
    simp at read
  | keychain =>
    cases h
    simp [get] at read
  | refusing refusals items =>
    obtain ⟨-, rfl⟩ := remove_refusing_eq_ok_iff.mp h
    by_cases hidden : refusals.get <;> simp [get, hidden] at read

theorem get_remove_of_ne (h : s.remove name = .ok s') (ne : other ≠ name) :
    s'.get other = s.get other := by
  obtain ⟨place, files⟩ := s
  cases place with
  | memory items =>
    cases h
    simp [get, Json.Members.find?_erase_of_ne ne]
  | file path =>
    obtain ⟨items, files', before, rfl, after⟩ := contents_of_remove h
    rw [get_of_contents after, get_of_contents before, Json.Members.find?_erase_of_ne ne]
  | keychain =>
    cases h
    rfl
  | refusing refusals items =>
    obtain ⟨-, rfl⟩ := remove_refusing_eq_ok_iff.mp h
    simp [get, Json.Members.find?_erase_of_ne ne]

end AdminPanel.Storage.Store
