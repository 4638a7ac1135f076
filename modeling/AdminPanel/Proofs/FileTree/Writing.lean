import AdminPanel.Proofs.FileTree.Replacing

/-!
# Writing a file in place and reading it

Writing in place goes where replacing goes, and differs from it only in who may read the file
afterwards. Whether it succeeds is a matter of the path and of what stands there, not of the bytes
(`write_isOk_congr`).
-/

namespace AdminPanel.FileTree

variable {t : FileTree}

/-- All that a successful write does. -/
theorem write_cases {t' : FileTree} {p : FilePath} {bytes : List UInt8}
    (h : t.write p bytes = .ok t') :
    ∃ front name parent ownerOnly, p = front ++ [name] ∧ Lands t front name parent ∧
      t.node? (parent ++ [name]) ≠ some .directory ∧
      t' = t.put (parent ++ [name]) (.file ⟨bytes, ownerOnly⟩) := by
  unfold write at h
  cases hq : t.place p with
  | error e => simp [hq, Bind.bind, Except.bind] at h
  | ok q =>
    cases plain : wantsDirectory p with
    | true =>
      -- what ends in a slash cannot be written, whatever stands there
      rcases hn : t.node? q with _ | (f | _) <;> simp [hq, hn, plain, Bind.bind, Except.bind] at h
    | false =>
      obtain ⟨front, name, parent, rfl, rfl, lands⟩ := lands_of_place hq plain
      rcases hn : t.node? (parent ++ [name]) with _ | (f | _)
      · simp only [hq, hn, plain, Bind.bind, Except.bind, Bool.false_eq_true, ↓reduceIte,
          Except.ok.injEq] at h
        exact ⟨front, name, parent, false, rfl, lands, by simp [hn], h.symm⟩
      · simp only [hq, hn, plain, Bind.bind, Except.bind, Bool.false_eq_true, ↓reduceIte,
          Except.ok.injEq] at h
        exact ⟨front, name, parent, f.ownerOnly, rfl, lands, by simp [hn], h.symm⟩
      · simp [hq, hn, Bind.bind, Except.bind] at h

theorem look_of_write {t' : FileTree} {p : FilePath} {bytes : List UInt8}
    (h : t.write p bytes = .ok t') :
    ∃ ownerOnly, t'.look p = .ok (.file ⟨bytes, ownerOnly⟩) := by
  obtain ⟨front, name, parent, ownerOnly, rfl, lands, free, rfl⟩ := write_cases h
  exact ⟨ownerOnly, (lands.put free _).look_eq (node?_put_self t (by simp) _)⟩

/-- **What is written is read back.** -/
theorem readText_of_write {t' : FileTree} {p : FilePath} {text : String}
    (h : t.write p text.toUTF8.toList = .ok t') : t'.readText p = .ok text := by
  obtain ⟨ownerOnly, found⟩ := look_of_write h
  exact readText_of_look found

/-- Whether a file can be written does not depend on its bytes. -/
theorem write_isOk_congr (t : FileTree) (p : FilePath) (bytes bytes' : List UInt8) :
    (t.write p bytes).isOk = (t.write p bytes').isOk := by
  unfold write
  cases t.place p with
  | error e => rfl
  | ok q =>
    rcases hn : t.node? q with _ | (f | _) <;> cases plain : wantsDirectory p <;>
      simp [hn, Bind.bind, Except.bind, Except.isOk, Except.toBool]

end AdminPanel.FileTree
