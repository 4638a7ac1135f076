import AdminPanel.Proofs.FileTree.Elsewhere

/-!
# Trees that differ at one file

Two trees with a file at the same place, the same everywhere else (`DifferAt`). No walk goes through a
file, so walks go the same way in both trees (`DifferAt.walk`); hence every operation succeeds in both
or fails in both with the same fault (`Alike`), and leaves trees that again differ there at most.
-/

namespace AdminPanel

/-- Two results that are faults of the same kind, or both no faults and related. -/
inductive Alike {α β ε : Type} (R : α → β → Prop) : Except ε α → Except ε β → Prop where
  | error (e : ε) : Alike R (.error e) (.error e)
  | ok {a : α} {b : β} (related : R a b) : Alike R (.ok a) (.ok b)

theorem Alike.cases_eq {α β ε : Type} {R : α → β → Prop} {x : Except ε α} {y : Except ε β}
    (h : Alike R x y) :
    (∃ e, x = .error e ∧ y = .error e) ∨ ∃ a b, x = .ok a ∧ y = .ok b ∧ R a b := by
  cases h with
  | error e => exact .inl ⟨e, rfl, rfl⟩
  | ok related => exact .inr ⟨_, _, rfl, rfl, related⟩

theorem Alike.bind {α β γ δ ε : Type} {R : α → β → Prop} {S : γ → δ → Prop} {x : Except ε α}
    {y : Except ε β} {f : α → Except ε γ} {g : β → Except ε δ} (h : Alike R x y)
    (hf : ∀ a b, R a b → Alike S (f a) (g b)) : Alike S (x >>= f) (y >>= g) := by
  cases h with
  | error e => exact .error e
  | ok related => exact hf _ _ related

namespace FileTree

variable {t t' : FileTree} {q r done : FilePath} {n : Node}

/-- Two trees with a file at a place, and the same everywhere else. -/
structure DifferAt (q : FilePath) (t t' : FileTree) : Prop where
  here : ∃ f f', t.node? q = some (.file f) ∧ t'.node? q = some (.file f')
  others : ∀ p, p ≠ q → t'.node? p = t.node? p

namespace DifferAt

/-- A file in the place of another. -/
theorem of_put {f : FileNode} (h : t.node? q = some (.file f)) (f' : FileNode) :
    DifferAt q t (t.put q (.file f')) := by
  have notRoot : q ≠ [] := by
    rintro rfl
    cases h
  exact ⟨⟨f, f', h, node?_put_self t notRoot _⟩, fun p ne => node?_put_of_ne t (Ne.symm ne) _⟩

/-- Where both walks fail alike, neither ends at the files. -/
theorem walk_of_error {names : List String} {e : FileFault} (left : t.walk done names = .error e)
    (right : t'.walk done names = .error e) :
    (∀ n, t.walk done names ≠ .ok (q, n)) ∧ t'.walk done names = t.walk done names := by
  rw [left, right]
  exact ⟨fun n ended => (by cases ended), rfl⟩

/-- Walks go the same way: either both end at the files, or at the same node, or with the same
fault. -/
theorem walk (h : DifferAt q t t') (done : FilePath) (names : List String) :
    (∃ f f', t.walk done names = .ok (q, .file f) ∧ t'.walk done names = .ok (q, .file f')) ∨
      ((∀ n, t.walk done names ≠ .ok (q, n)) ∧ t'.walk done names = t.walk done names) := by
  obtain ⟨f, f', left, right⟩ := h.here
  -- name by name: as long as the walk is not at the file it goes the same way in both trees
  induction names generalizing done with
  | nil =>
    by_cases at' : done = q
    · subst at'
      exact .inl ⟨f, f', walk_nil_eq_ok.mpr ⟨rfl, left⟩, walk_nil_eq_ok.mpr ⟨rfl, right⟩⟩
    · refine .inr ⟨fun n ended => at' (walk_nil_eq_ok.mp ended).1.symm, ?_⟩
      rw [FileTree.walk, FileTree.walk, h.others done at']
  | cons name names ih =>
    by_cases at' : done = q
    · -- a walk does not go through a file
      subst at'
      exact .inr (walk_of_error (by rw [FileTree.walk, left]) (by rw [FileTree.walk, right]))
    · have same := h.others done at'
      rcases node : t.node? done with _ | (g | _)
      · exact .inr (walk_of_error (by rw [FileTree.walk, node]) (by rw [FileTree.walk, same, node]))
      · exact .inr (walk_of_error (by rw [FileTree.walk, node]) (by rw [FileTree.walk, same, node]))
      · rw [walk_cons_of_directory node, walk_cons_of_directory (same.trans node)]
        cases descend done name with
        | error e => exact .inr ⟨by simp, rfl⟩
        | ok next => exact ih next

/-! ## Looking -/

theorem place_eq (h : DifferAt q t t') (p : FilePath) : t'.place p = t.place p := by
  unfold place
  cases hasNul p with
  | true => rfl
  | false =>
    cases fromLast p with
    | nil => rfl
    | cons name above =>
      rcases h.walk [] above.reverse with ⟨f, f', left, right⟩ | ⟨-, same⟩
      · simp [left, right, Bind.bind, Except.bind]
      · simp [same]

theorem look (h : DifferAt q t t') (p : FilePath) :
    (∃ f f', t.look p = .ok (.file f) ∧ t'.look p = .ok (.file f')) ∨ t'.look p = t.look p := by
  unfold FileTree.look
  cases hasNul p with
  | true => exact .inr rfl
  | false =>
    rcases h.walk [] p with ⟨f, f', left, right⟩ | ⟨-, same⟩
    · exact .inl ⟨f, f', by simp [left, Except.map], by simp [right, Except.map]⟩
    · exact .inr (by simp [same])

/-- A path whose last name is not that of the file leads elsewhere. -/
theorem look_of_name {parent front : FilePath} {name name' : String}
    (h : DifferAt (parent ++ [name]) t t') (proper : IsProper name') (ne : name' ≠ name) :
    t'.look (front ++ [name']) = t.look (front ++ [name']) := by
  unfold FileTree.look
  rcases h.walk [] (front ++ [name']) with ⟨f, f', left, -⟩ | ⟨-, same⟩
  · obtain ⟨parent', meet⟩ := exists_of_walk_concat proper left
    exact absurd (List.append_inj' meet rfl).2 (by simpa using Ne.symm ne)
  · rw [same]

theorem node?_cases (h : DifferAt q t t') (p : FilePath) :
    (p = q ∧ ∃ f f', t.node? p = some (.file f) ∧ t'.node? p = some (.file f')) ∨
      (p ≠ q ∧ t'.node? p = t.node? p) := by
  by_cases same : p = q
  · subst same
    exact .inl ⟨rfl, h.here⟩
  · exact .inr ⟨same, h.others p same⟩

/-! ## Putting -/

theorem put_of_ne {p : FilePath} (h : DifferAt q t t') (ne : p ≠ q) (n : Node) :
    DifferAt q (t.put p n) (t'.put p n) := by
  obtain ⟨f, f', left, right⟩ := h.here
  refine ⟨⟨f, f', by rw [node?_put_of_ne t ne, left], by rw [node?_put_of_ne t' ne, right]⟩, ?_⟩
  intro r hr
  by_cases same : p = r
  · subst same
    by_cases root : p = []
    · subst root
      rfl
    · rw [node?_put_self t root, node?_put_self t' root]
  · rw [node?_put_of_ne t same, node?_put_of_ne t' same, h.others r hr]

theorem put_here (h : DifferAt q t t') (f f' : FileNode) :
    DifferAt q (t.put q (.file f)) (t'.put q (.file f')) := by
  have notRoot : q ≠ [] := by
    obtain ⟨g, -, left, -⟩ := h.here
    rintro rfl
    cases left
  refine ⟨⟨f, f', node?_put_self t notRoot _, node?_put_self t' notRoot _⟩, fun r hr => ?_⟩
  rw [node?_put_of_ne t (Ne.symm hr), node?_put_of_ne t' (Ne.symm hr), h.others r hr]

/-! ## Operations -/

theorem makeDir (h : DifferAt q t t') (p : FilePath) :
    Alike (DifferAt q) (t.makeDir p) (t'.makeDir p) := by
  unfold FileTree.makeDir
  rw [h.place_eq p]
  cases t.place p with
  | error e => exact .error e
  | ok r =>
    simp only [Bind.bind, Except.bind]
    rcases h.node?_cases r with ⟨-, f, f', left, right⟩ | ⟨ne, same⟩
    · rw [left, right]
      exact .error _
    · rw [same]
      cases t.node? r with
      | some n => exact .error _
      | none => exact .ok (h.put_of_ne ne .directory)

theorem makeDirsRev (h : DifferAt q t t') (names : List String) :
    Alike (DifferAt q) (t.makeDirsRev names) (t'.makeDirsRev names) := by
  induction names with
  | nil => exact .ok h
  | cons name above ih =>
    rw [FileTree.makeDirsRev, FileTree.makeDirsRev]
    split
    · exact ih
    · simp only
      -- where the file is, both fail in the same way; elsewhere both find the same
      rcases h.look (name :: above).reverse with ⟨f, f', left, right⟩ | same
      · rw [left, right]
        exact .error _
      · rw [same]
        split
        · exact .ok h
        · exact .error _
        · refine ih.bind fun u u' made => ?_
          split
          · exact .ok made
          · exact made.makeDir _
        · exact .error _

theorem makeDirs (h : DifferAt q t t') (p : FilePath) :
    Alike (DifferAt q) (t.makeDirs p) (t'.makeDirs p) :=
  h.makeDirsRev p.reverse

/-- What replaces the file at which the trees differ need not be the same in both. -/
theorem replace (h : DifferAt q t t') (p : FilePath) {bytes bytes' : List UInt8}
    (either : bytes' = bytes ∨ t.place p = .ok q) :
    Alike (DifferAt q) (t.replace p bytes) (t'.replace p bytes') := by
  unfold FileTree.replace
  rw [h.place_eq p]
  cases hp : t.place p with
  | error e => exact .error e
  | ok r =>
    simp only [Bind.bind, Except.bind]
    split
    · exact .error _
    -- at the file, both are replaced and may differ further; elsewhere, what is written is the same
    · rcases h.node?_cases r with ⟨rfl, f, f', left, right⟩ | ⟨ne, same⟩
      · rw [left, right]
        exact .ok (h.put_here _ _)
      · have bytes_eq : bytes' = bytes := by
          rcases either with same | here
          · exact same
          · rw [hp] at here
            exact absurd (Except.ok.inj here) ne
        rw [same, bytes_eq]
        split
        · exact .error _
        · exact .ok (h.put_of_ne ne _)

theorem write (h : DifferAt q t t') (p : FilePath) (bytes : List UInt8) :
    Alike (DifferAt q) (t.write p bytes) (t'.write p bytes) := by
  unfold FileTree.write
  rw [h.place_eq p]
  cases t.place p with
  | error e => exact .error e
  | ok r =>
    simp only [Bind.bind, Except.bind]
    rcases h.node?_cases r with ⟨rfl, f, f', left, right⟩ | ⟨ne, same⟩
    · rw [left, right]
      simp only
      split
      · exact .error _
      · exact .ok (h.put_here _ _)
    · rw [same]
      split
      · exact .error _
      · split
        · exact .error _
        · exact .ok (h.put_of_ne ne _)
      · split
        · exact .error _
        · exact .ok (h.put_of_ne ne _)

end DifferAt

end FileTree

end AdminPanel
