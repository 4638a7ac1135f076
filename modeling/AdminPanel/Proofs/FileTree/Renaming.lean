import AdminPanel.Proofs.FileTree.Elsewhere

/-!
# Renaming a temporary file

Replacing a file as the system does it: a temporary file is made where nothing is, filled, and renamed
over the path. What has been put where nothing was can be taken away again, and the tree is then the
same (`erase_put`), whatever it was filled with in between (`put_put`). Of the places that a path may
name, a temporary file neither gives nor takes any (`place_put_file`), so that renaming it over a path
is replacing the file there (`rename_eq_ok_iff`).
-/

namespace AdminPanel.FileTree

variable {t t' : FileTree} {p q r : FilePath} {f : FileNode} {n : Node}

/-! ## Taking away what has been put -/

theorem put_put (t : FileTree) (q : FilePath) (n m : Node) : (t.put q n).put q m = t.put q m := by
  simp [put, List.filter_filter]

/-- What has been put where nothing was is taken away without a trace. -/
theorem erase_put (free : t.node? q = none) (n : Node) : (t.put q n).erase q = t := by
  have notRoot : q ≠ [] := by
    rintro rfl
    cases free
  have absent : ∀ m ∈ t.nodes, m.1 ≠ q := by
    rw [node?, if_neg notRoot, Option.map_eq_none_iff, List.find?_eq_none] at free
    intro m listed
    simpa using free m listed
  have kept : t.nodes.filter (fun m => m.1 ≠ q) = t.nodes :=
    List.filter_eq_self.mpr fun m listed => by simpa using absent m listed
  simp only [put, erase, List.filter_cons, List.filter_filter, Bool.and_self]
  rw [if_neg (by simp), kept]

/-! ## Where a path leads beside a temporary file -/

/-- A file that is new at a place gives paths no places and takes none from them: no walk ends at a
directory behind it. -/
theorem place_put_file (free : t.node? q = none) (f : FileNode) :
    (t.put q (.file f)).place p = .ok r ↔ t.place p = .ok r := by
  have notRoot : q ≠ [] := by
    rintro rfl
    cases free
  have same (names : List String) (parent : FilePath) :
      (t.put q (.file f)).walk [] names = .ok (parent, .directory) ↔
        t.walk [] names = .ok (parent, .directory) := by
    constructor
    · intro walked
      refine walk_of_put notRoot ?_ walked
      rintro rfl
      have found := node?_of_walk walked
      rw [node?_put_self t notRoot] at found
      cases found
    · exact walk_put (by simp [free]) _
  simp only [place_eq_ok_iff, same]

/-- Where both find the same place, renaming a new file is replacing what is there. -/
theorem rename_of_place (free : t.node? q = none) {bytes : List UInt8}
    (same : (t.put q (.file ⟨bytes, true⟩)).place p = t.place p) :
    (t.put q (.file ⟨bytes, true⟩)).rename q p = t.replace p bytes := by
  have notRoot : q ≠ [] := by
    rintro rfl
    cases free
  unfold rename replace
  rw [same, erase_put free, node?_put_self t notRoot]
  cases t.place p with
  | error e => rfl
  | ok r =>
    -- a path that asks for a directory cannot be that of a file, in either case
    cases plain : wantsDirectory p with
    | true => simp [Bind.bind, Except.bind]
    | false =>
      simp only [Bind.bind, Except.bind, Bool.false_eq_true, if_false]
      by_cases here : q = r
      · -- renaming the file to where it is
        subst here
        rw [free, node?_put_self t notRoot]
      · rw [node?_put_of_ne t here]
        rcases t.node? r with _ | (f | _) <;> rfl

/-- **Renaming a new file over a path is replacing the file there.** -/
theorem rename_eq_ok_iff (free : t.node? q = none) (bytes : List UInt8) :
    (t.put q (.file ⟨bytes, true⟩)).rename q p = .ok t' ↔ t.replace p bytes = .ok t' := by
  have places (r : FilePath) := place_put_file (p := p) (r := r) free ⟨bytes, true⟩
  cases placed : t.place p with
  | ok r => rw [rename_of_place free (((places r).mpr placed).trans placed.symm)]
  | error e =>
    cases placed' : (t.put q (.file ⟨bytes, true⟩)).place p with
    | error e' => simp [rename, replace, placed, placed', Bind.bind, Except.bind]
    | ok r =>
      rw [places r, placed] at placed'
      cases placed'

/-! ## A temporary file of a name that no path has -/

section Apart

variable {d done : FilePath} {name : String}

/-- A walk does not come by a place whose name it does not know. -/
theorem walk_put_of_not_mem {names : List String} (new : name ∉ done) (unknown : name ∉ names)
    (n : Node) : (t.put (d ++ [name]) n).walk done names = t.walk done names := by
  have apart {done : FilePath} (new : name ∉ done) : d ++ [name] ≠ done := by
    rintro rfl
    exact new (by simp)
  -- induction on the names; every place on the way is spelled by them
  induction names generalizing done with
  | nil => rw [walk, walk, node?_put_of_ne t (apart new)]
  | cons first names ih =>
    have later : name ∉ names := fun within => unknown (List.mem_cons_of_mem _ within)
    have down : name ∉ done ++ [first] := by
      intro within
      rcases List.mem_append.mp within with within | within
      · exact new within
      · exact unknown (List.mem_singleton.mp within ▸ List.mem_cons_self)
    have up : name ∉ done.dropLast := fun within => new ((List.dropLast_sublist _).mem within)
    rw [walk, walk, node?_put_of_ne t (apart new), ih new later, ih up later, ih down later]

/-- Where a path leads is not a matter of a file whose name it does not know. -/
theorem place_put_of_not_mem (unknown : name ∉ p) (n : Node) :
    (t.put (d ++ [name]) n).place p = t.place p := by
  have names : name ∉ fromLast p := by
    intro within
    exact unknown (List.mem_reverse.mp ((List.dropWhile_sublist _).mem within))
  unfold place
  cases last : fromLast p with
  | nil => rfl
  | cons first above =>
    rw [last] at names
    have above' : name ∉ above.reverse := by
      intro within
      exact names (List.mem_cons_of_mem _ (List.mem_reverse.mp within))
    simp only [walk_put_of_not_mem List.not_mem_nil above' n]

/-- Renaming a new file over a path that does not know its name also fails as replacing does. -/
theorem rename_eq (free : t.node? (d ++ [name]) = none) (unknown : name ∉ p) (bytes : List UInt8) :
    (t.put (d ++ [name]) (.file ⟨bytes, true⟩)).rename (d ++ [name]) p = t.replace p bytes :=
  rename_of_place free (place_put_of_not_mem unknown _)

end Apart

end AdminPanel.FileTree
