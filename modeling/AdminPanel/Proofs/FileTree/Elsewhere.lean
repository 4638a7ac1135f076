import AdminPanel.Proofs.FileTree.Writing

/-!
# What happens elsewhere in the tree

What is put at one place, seen from the paths that lead to others. A walk ends at a place that has the
last name of its path (`exists_of_walk_concat`), so that paths with different last names never meet;
and making directories (`Grown`) leaves whatever could be found where it was, and brings no file.
-/

namespace AdminPanel.FileTree

variable {t t' : FileTree} {q r done : FilePath} {n : Node}

/-! ## Where walks end -/

/-- No walk goes through a file, so that one that ends elsewhere does not need it. -/
theorem walk_of_put {names : List String} {f : FileNode} (notRoot : q ≠ []) (ne : q ≠ r)
    (h : (t.put q (.file f)).walk done names = .ok (r, n)) : t.walk done names = .ok (r, n) := by
  induction names generalizing done with
  | nil =>
    obtain ⟨rfl, found⟩ := walk_nil_eq_ok.mp h
    exact walk_nil_eq_ok.mpr ⟨rfl, by rw [← found, node?_put_of_ne t ne]⟩
  | cons name names ih =>
    obtain ⟨directory, next, step, rest⟩ := walk_cons_eq_ok.mp h
    have apart : q ≠ done := by
      rintro rfl
      rw [node?_put_self t notRoot] at directory
      cases directory
    refine walk_cons_eq_ok.mpr ⟨?_, next, step, ih rest⟩
    rw [← directory, node?_put_of_ne t apart]

/-- A name that leads one directory down. -/
def IsProper (name : String) : Prop := name ≠ "" ∧ name ≠ "." ∧ name ≠ ".."

instance (name : String) : Decidable (IsProper name) := inferInstanceAs (Decidable (_ ∧ _ ∧ _))

theorem descend_of_isProper {name : String} (proper : IsProper name) {next : FilePath}
    (h : descend done name = .ok next) : next = done ++ [name] := by
  obtain ⟨named, notPoint, notUp⟩ := proper
  rw [descend, if_neg (by simp [named, notPoint]), if_neg notUp] at h
  split at h
  · cases h
  · exact (Except.ok.inj h).symm

/-- A walk whose last name is proper ends at a place of that name. -/
theorem exists_of_walk_concat {front : FilePath} {name : String} (proper : IsProper name)
    (h : t.walk done (front ++ [name]) = .ok (r, n)) : ∃ parent, r = parent ++ [name] := by
  obtain ⟨parent, -, step, -⟩ := walk_concat_eq_ok.mp h
  exact ⟨parent, descend_of_isProper proper step⟩

/-- A walk without ways up ends at the place that its proper names spell. -/
theorem eq_of_walk {names : List String} (noUp : ".." ∉ names)
    (h : t.walk done names = .ok (r, n)) : r = done ++ names.filter (IsProper ·) := by
  induction names generalizing done with
  | nil =>
    obtain ⟨rfl, -⟩ := walk_nil_eq_ok.mp h
    simp
  | cons name names ih =>
    obtain ⟨-, next, step, rest⟩ := walk_cons_eq_ok.mp h
    have notUp : name ≠ ".." := fun same => noUp (same ▸ List.mem_cons_self)
    have behind := ih (fun later => noUp (List.mem_cons_of_mem _ later)) rest
    by_cases point : name = "." ∨ name = ""
    · rw [descend, if_pos point] at step
      cases step
      have improper : ¬ IsProper name := by
        rcases point with rfl | rfl <;> decide
      simpa [List.filter_cons, improper] using behind
    · have proper : IsProper name := ⟨fun e => point (.inr e), fun e => point (.inl e), notUp⟩
      rw [descend_of_isProper proper step] at behind
      simpa [List.filter_cons, proper] using behind

theorem look_eq_ok_iff {p : FilePath} :
    t.look p = .ok n ↔ hasNul p = false ∧ ∃ r, t.walk [] p = .ok (r, n) := by
  unfold look
  cases hasNul p with
  | true => simp
  | false =>
    rcases t.walk [] p with e | ⟨r, m⟩
    · simp [Except.map]
    · simp [Except.map]

/-- What is not found is not reached. -/
theorem walk_ne_ok_of_look {p : FilePath} (h : t.look p = .error .notFound) (r : FilePath × Node) :
    t.walk [] p ≠ .ok r := by
  intro walked
  rw [look] at h
  split at h
  · cases h
  · rw [walked] at h
    cases h

/-- Where something stands, its path lands. -/
theorem lands_of_look {front : FilePath} {name : String} {n : Node} (proper : IsProper name)
    (h : t.look (front ++ [name]) = .ok n) :
    ∃ parent, Lands t front name parent ∧ t.node? (parent ++ [name]) = some n := by
  obtain ⟨noNul, r, walked⟩ := look_eq_ok_iff.mp h
  obtain ⟨parent, above, step, found⟩ := walk_concat_eq_ok.mp walked
  obtain ⟨named, notPoint, notUp⟩ := proper
  have short : isTooLong name = false := by
    rw [descend, if_neg (by simp [named, notPoint]), if_neg notUp] at step
    split at step
    · cases step
    · next short => exact Bool.eq_false_iff.mpr short
  have down := descend_of_isProper ⟨named, notPoint, notUp⟩ step
  rw [down] at found
  exact ⟨parent, ⟨noNul, named, notPoint, notUp, short, above⟩, found⟩

/-- A walk that ends where its path lands. -/
theorem Lands.eq_of_walk {front parent : FilePath} {name : String} (h : Lands t front name parent)
    (walked : t.walk [] (front ++ [name]) = .ok (r, n)) : r = parent ++ [name] := by
  obtain ⟨parent', above, step, -⟩ := walk_concat_eq_ok.mp walked
  rw [h.above] at above
  cases above
  exact descend_of_isProper ⟨h.named, h.notPoint, h.notUp⟩ step

/-- A walk goes down from directories only, so that it ends below directories. -/
theorem directory_of_walk {names : List String}
    (below : ∀ above, above <+: done → above ≠ done → t.node? above = some .directory)
    (h : t.walk done names = .ok (r, n)) :
    ∀ above, above <+: r → above ≠ r → t.node? above = some .directory := by
  -- induction on the names; each step is made from a directory
  induction names generalizing done with
  | nil =>
    obtain ⟨rfl, -⟩ := walk_nil_eq_ok.mp h
    exact below
  | cons name names ih =>
    obtain ⟨directory, next, step, rest⟩ := walk_cons_eq_ok.mp h
    refine ih ?_ rest
    intro above isAbove ne
    rw [descend] at step
    split at step
    · cases step
      exact below above isAbove ne
    · split at step
      · cases step
        refine below above (isAbove.trans done.dropLast_prefix) ?_
        rintro rfl
        exact ne (isAbove.eq_of_length_le (by simp))
      · split at step
        · cases step
        · cases step
          rcases List.prefix_concat_iff.mp isAbove with same | isAbove
          · exact absurd same ne
          · by_cases here : above = done
            · rw [here]
              exact directory
            · exact below above isAbove here

/-- One step up from a directory there is another. -/
theorem directory_above_of_walk {names : List String} (h : t.walk [] names = .ok (r, n)) :
    t.node? r.dropLast = some .directory := by
  rcases r.eq_nil_or_concat with rfl | ⟨above, last, rfl⟩
  · rfl
  · refine directory_of_walk (fun above isAbove ne => ?_) h _ (List.dropLast_prefix _) ?_
    · exact absurd (List.prefix_nil.mp isAbove) ne
    · simp

/-- A path that leads to a file ends in its name. -/
theorem lands_of_file {p : FilePath} {f : FileNode} (h : t.look p = .ok (.file f)) :
    ∃ front name parent, p = front ++ [name] ∧ Lands t front name parent ∧
      t.node? (parent ++ [name]) = some (.file f) := by
  obtain ⟨noNul, r, walked⟩ := look_eq_ok_iff.mp h
  rcases p.eq_nil_or_concat with rfl | ⟨front, name, rfl⟩
  · obtain ⟨rfl, root⟩ := walk_nil_eq_ok.mp walked
    cases root
  · rw [List.concat_eq_append] at h walked
    obtain ⟨parent, above, step, found⟩ := walk_concat_eq_ok.mp walked
    -- a point, or two of them, would lead to a directory
    have proper : IsProper name := by
      refine ⟨?_, ?_, ?_⟩
      · rintro rfl
        cases step
        rw [node?_of_walk above] at found
        cases found
      · rintro rfl
        cases step
        rw [node?_of_walk above] at found
        cases found
      · rintro rfl
        cases step
        rw [directory_above_of_walk above] at found
        cases found
    obtain ⟨parent', lands, there⟩ := lands_of_look proper h
    exact ⟨front, name, parent', List.concat_eq_append, lands, there⟩

/-- Only a file has a text. -/
theorem file_of_readText {p : FilePath} {text : String} (h : t.readText p = .ok text) :
    ∃ f, t.look p = .ok (.file f) := by
  rcases looked : t.look p with e | (f | _)
  · simp [readText, readBytes, looked, Bind.bind, Except.bind] at h
  · exact ⟨f, rfl⟩
  · simp [readText, readBytes, looked, Bind.bind, Except.bind] at h

/-- What is found at a path decides what is read there. -/
theorem readText_congr {p : FilePath} (h : t'.look p = t.look p) : t'.readText p = t.readText p := by
  rw [readText, readBytes, h, readText, readBytes]

/-! ## Directories that are made -/

/-- Directories have been made at places where nothing was. -/
inductive Grown (t : FileTree) : FileTree → Prop where
  | refl : Grown t t
  | made {t' : FileTree} {q : FilePath} (before : Grown t t') (free : t'.node? q = none) :
    Grown t (t'.put q .directory)

theorem Grown.walk {names : List String} (h : Grown t t') (found : t.walk done names = .ok (r, n)) :
    t'.walk done names = .ok (r, n) := by
  induction h with
  | refl => exact found
  | @made t' q before free ih =>
    have apart : q ≠ r := by
      rintro rfl
      rw [node?_of_walk ih] at free
      cases free
    exact walk_put_of_ne (by simp [free]) .directory ih apart

theorem Grown.look {p : FilePath} (h : Grown t t') (found : t.look p = .ok n) :
    t'.look p = .ok n := by
  obtain ⟨noNul, r, walked⟩ := look_eq_ok_iff.mp found
  exact look_eq_ok_iff.mpr ⟨noNul, r, h.walk walked⟩

/-- No file has come. -/
theorem Grown.node?_file {f : FileNode} (h : Grown t t') (found : t'.node? r = some (.file f)) :
    t.node? r = some (.file f) := by
  induction h with
  | refl => exact found
  | @made t' q before free ih =>
    by_cases same : q = r
    · subst same
      by_cases root : q = []
      · subst root
        cases free
      · rw [node?_put_self t' root] at found
        cases found
    · rw [node?_put_of_ne t' same] at found
      exact ih found

theorem makeDir_cases {p : FilePath} (h : t.makeDir p = .ok t') :
    ∃ q, t.place p = .ok q ∧ t.node? q = none ∧ t' = t.put q .directory := by
  unfold makeDir at h
  cases placed : t.place p with
  | error e => simp [placed, Bind.bind, Except.bind] at h
  | ok q =>
    simp only [placed, Bind.bind, Except.bind] at h
    split at h
    · cases h
    · next free =>
      cases h
      exact ⟨q, rfl, free, rfl⟩

/-- How the directories above a name are made, by what the name is. -/
inductive DirsMade (t : FileTree) (name : String) (above : List String) : FileTree → Prop where
  | point {t' : FileTree} (point : name = "." ∨ name = "") (made : t.makeDirsRev above = .ok t') :
    DirsMade t name above t'
  | there (there : t.look (name :: above).reverse = .ok .directory) : DirsMade t name above t
  | up {t' : FileTree} (up : name = "..") (made : t.makeDirsRev above = .ok t') : DirsMade t name above t'
  | last {mid t' : FileTree} (plain : ¬ (name = "." ∨ name = "")) (made : t.makeDirsRev above = .ok mid)
      (last : mid.makeDir (name :: above).reverse = .ok t') : DirsMade t name above t'

theorem dirsMade_of_makeDirsRev {name : String} {above : List String}
    (h : t.makeDirsRev (name :: above) = .ok t') : DirsMade t name above t' := by
  rw [makeDirsRev] at h
  -- a point names no directory of its own, and what is there already is left
  by_cases point : name = "." ∨ name = ""
  · rw [if_pos point] at h
    exact .point point h
  · rw [if_neg point] at h
    simp only at h
    split at h
    · next there =>
      cases h
      exact .there there
    · cases h
    · cases made : t.makeDirsRev above with
      | error e => simp [made, Bind.bind, Except.bind] at h
      | ok mid =>
        simp only [made, Bind.bind, Except.bind] at h
        split at h
        · next up =>
          cases h
          exact .up up made
        · exact .last point made h
    · cases h

theorem grown_of_makeDirsRev {names : List String} (h : t.makeDirsRev names = .ok t') :
    Grown t t' := by
  induction names generalizing t' with
  | nil =>
    cases h
    exact .refl
  | cons name above ih =>
    cases dirsMade_of_makeDirsRev h with
    | point _ made | up _ made => exact ih made
    | there => exact .refl
    | last plain made last =>
      obtain ⟨q, -, free, rfl⟩ := makeDir_cases last
      exact .made (ih made) free

theorem grown_of_makeDirs {p : FilePath} (h : t.makeDirs p = .ok t') : Grown t t' :=
  grown_of_makeDirsRev h

end AdminPanel.FileTree
