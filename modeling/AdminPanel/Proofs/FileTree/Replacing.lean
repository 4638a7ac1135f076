import AdminPanel.FileTree
import AdminPanel.Proofs.Text.Utf8
import Mathlib.Data.List.TakeWhile

/-!
# Replacing a file and reading it

What a successful replacement leaves in the tree, for every path that the system accepts: with
points, doubled slashes and ways up inside, and with directories that had to be made first.

## The architecture

* **`descend`** — the one step of a walk. A walk succeeds exactly if every name on it is a step
  from a directory (`walk_cons_eq_ok`); all facts about walks are inductions over this equation.
* **`Lands`** — a path names a place below an existing directory. Replacing succeeds only at such
  a path (`replace_cases`), and what is put there leaves the way to it as it was (`Lands.put`).
* **`readText_of_replace`** — what has been put at a path is read back from it.
* **`makeDirs_of_lands`** — above such a path no directory is missing, so making them changes
  nothing: from the first replacement on, every later one only replaces.
-/

namespace AdminPanel.FileTree

variable {t : FileTree}

/-! ## Walking

A walk looks at the nodes on its way and nowhere else, and all of them but the last are
directories. -/

/-- Where a name leads from a directory. -/
def descend (done : FilePath) (name : String) : Except FileFault FilePath :=
  if name = "." ∨ name = "" then .ok done
  else if name = ".." then .ok done.dropLast
  else if isTooLong name then .error .nameTooLong
  else .ok (done ++ [name])

@[simp] theorem node?_nil : t.node? [] = some .directory := rfl

theorem walk_nil_eq_ok {done q : FilePath} {n : Node} :
    t.walk done [] = .ok (q, n) ↔ q = done ∧ t.node? done = some n := by
  rw [walk]
  cases t.node? done with
  | none =>
    constructor
    · intro h
      cases h
    · rintro ⟨-, found⟩
      cases found
  | some m =>
    constructor
    · intro h
      cases h
      exact ⟨rfl, rfl⟩
    · rintro ⟨rfl, same⟩
      cases same
      rfl

theorem walk_cons_of_directory {done : FilePath} {name : String} {names : List String}
    (h : t.node? done = some .directory) :
    t.walk done (name :: names) =
      match descend done name with
      | .error e => .error e
      | .ok next => t.walk next names := by
  rw [walk, h, descend]
  by_cases point : name = "." ∨ name = ""
  · rw [if_pos point, if_pos point]
  · rw [if_neg point, if_neg point]
    by_cases up : name = ".."
    · rw [if_pos up, if_pos up]
    · rw [if_neg up, if_neg up]
      cases isTooLong name <;> rfl

/-- A walk goes on exactly from directories, one step at a time. -/
theorem walk_cons_eq_ok {done : FilePath} {name : String} {rest : List String}
    {r : FilePath × Node} :
    t.walk done (name :: rest) = .ok r ↔
      t.node? done = some .directory ∧ ∃ d, descend done name = .ok d ∧ t.walk d rest = .ok r := by
  -- a walk goes on from a directory only
  by_cases directory : t.node? done = some .directory
  · rw [walk_cons_of_directory directory]
    cases step : descend done name with
    | error e =>
      constructor
      · intro h
        cases h
      · rintro ⟨-, _, same, -⟩
        cases same
    | ok d =>
      constructor
      · intro rest
        exact ⟨directory, d, rfl, rest⟩
      · rintro ⟨-, _, same, rest⟩
        cases same
        exact rest
  · refine ⟨fun h => absurd ?_ directory, fun h => absurd h.1 directory⟩
    rw [walk] at h
    split at h
    · cases h
    · cases h
    · next here => exact here

/-- A walk over more names is a walk over the first ones, which ends at a directory if any are left,
and a walk from there. -/
theorem walk_append_eq_ok {done : FilePath} {names : List String} {name : String}
    {rest : List String} {r : FilePath × Node} :
    t.walk done (names ++ name :: rest) = .ok r ↔
      ∃ q, t.walk done names = .ok (q, .directory) ∧ t.walk q (name :: rest) = .ok r := by
  -- induction on the first names
  induction names generalizing done with
  | nil =>
    rw [List.nil_append]
    constructor
    · intro h
      have directory := (walk_cons_eq_ok.mp h).1
      exact ⟨done, walk_nil_eq_ok.mpr ⟨rfl, directory⟩, h⟩
    · rintro ⟨q, here, h⟩
      obtain ⟨rfl, -⟩ := walk_nil_eq_ok.mp here
      exact h
  | cons first names ih =>
    rw [List.cons_append, walk_cons_eq_ok]
    constructor
    · rintro ⟨directory, d, hd, h⟩
      obtain ⟨q, front, back⟩ := ih.mp h
      exact ⟨q, walk_cons_eq_ok.mpr ⟨directory, d, hd, front⟩, back⟩
    · rintro ⟨q, front, back⟩
      obtain ⟨directory, d, hd, front⟩ := walk_cons_eq_ok.mp front
      exact ⟨directory, d, hd, ih.mpr ⟨q, front, back⟩⟩

theorem node?_of_walk {done q : FilePath} {names : List String} {n : Node}
    (h : t.walk done names = .ok (q, n)) : t.node? q = some n := by
  induction names generalizing done with
  | nil =>
    obtain ⟨rfl, found⟩ := walk_nil_eq_ok.mp h
    exact found
  | cons name names ih =>
    obtain ⟨-, next, -, hrest⟩ := walk_cons_eq_ok.mp h
    exact ih hrest

/-- Behind names that lead to a directory, a walk goes on from there. -/
theorem walk_append_of_directory {done d : FilePath} {names rest : List String} {r : FilePath × Node}
    (front : t.walk done names = .ok (d, .directory)) :
    t.walk done (names ++ rest) = .ok r ↔ t.walk d rest = .ok r := by
  cases rest with
  | nil =>
    have here : t.walk d [] = .ok (d, .directory) :=
      walk_nil_eq_ok.mpr ⟨rfl, node?_of_walk front⟩
    rw [List.append_nil, front, here]
  | cons name rest =>
    rw [walk_append_eq_ok]
    constructor
    · rintro ⟨q, front', back⟩
      rw [front] at front'
      cases front'
      exact back
    · exact fun back => ⟨d, front, back⟩

/-- All but the end of a walk leads to a directory. -/
theorem directory_of_walk_append {done : FilePath} {names rest : List String} {r : FilePath}
    (h : t.walk done (names ++ rest) = .ok (r, .directory)) :
    ∃ d, t.walk done names = .ok (d, .directory) := by
  cases rest with
  | nil => exact ⟨r, by rw [← h, List.append_nil]⟩
  | cons name rest =>
    obtain ⟨d, front, -⟩ := walk_append_eq_ok.mp h
    exact ⟨d, front⟩

/-- The last step of a walk starts at a directory. -/
theorem walk_concat_eq_ok {done q : FilePath} {front : List String} {name : String} {n : Node} :
    t.walk done (front ++ [name]) = .ok (q, n) ↔
      ∃ parent, t.walk done front = .ok (parent, .directory) ∧ descend parent name = .ok q ∧
        t.node? q = some n := by
  rw [walk_append_eq_ok]
  constructor
  · rintro ⟨parent, above, last⟩
    obtain ⟨-, next, step, here⟩ := walk_cons_eq_ok.mp last
    obtain ⟨rfl, found⟩ := walk_nil_eq_ok.mp here
    exact ⟨parent, above, step, found⟩
  · rintro ⟨parent, above, step, found⟩
    refine ⟨parent, above, walk_cons_eq_ok.mpr ⟨node?_of_walk above, q, step, ?_⟩⟩
    exact walk_nil_eq_ok.mpr ⟨rfl, found⟩

/-- A walk that ends somewhere is not disturbed by what is put elsewhere, at a place where no directory
is: no node on its way is there. -/
theorem walk_put_of_ne {q done r : FilePath} {names : List String} {n : Node}
    (free : t.node? q ≠ some .directory) (m : Node) (h : t.walk done names = .ok (r, n))
    (ne : q ≠ r) : (t.put q m).walk done names = .ok (r, n) := by
  induction names generalizing done with
  | nil =>
    obtain ⟨rfl, found⟩ := walk_nil_eq_ok.mp h
    exact walk_nil_eq_ok.mpr ⟨rfl, by rw [node?_put_of_ne t ne m, found]⟩
  | cons name names ih =>
    obtain ⟨directory, next, step, rest⟩ := walk_cons_eq_ok.mp h
    have apart : q ≠ done := fun same => free (same ▸ directory)
    refine walk_cons_eq_ok.mpr ⟨?_, next, step, ih rest⟩
    rw [node?_put_of_ne t apart m, directory]

/-- A walk to a directory does not end where no directory is. -/
theorem walk_put {q done d : FilePath} {names : List String} (free : t.node? q ≠ some .directory)
    (n : Node) (h : t.walk done names = .ok (d, .directory)) :
    (t.put q n).walk done names = .ok (d, .directory) :=
  walk_put_of_ne free n h fun same => free (same ▸ node?_of_walk h)

/-- Points and empty names at the end of a walk lead nowhere else. -/
theorem walk_of_walk_append_points {done d : FilePath} {names points : List String}
    (hpoints : ∀ name ∈ points, name = "." ∨ name = "")
    (h : t.walk done (names ++ points) = .ok (d, .directory)) :
    t.walk done names = .ok (d, .directory) := by
  induction points generalizing names with
  | nil => simpa using h
  | cons point points ih =>
    have single : t.walk done (names ++ [point]) = .ok (d, .directory) := by
      refine ih (fun name hname => hpoints name (List.mem_cons_of_mem _ hname)) ?_
      simpa using h
    obtain ⟨q, front, step, -⟩ := walk_concat_eq_ok.mp single
    rw [descend, if_pos (hpoints point List.mem_cons_self)] at step
    cases step
    exact front

/-! ## Where a path lands -/

/-- A path can be created below a directory, under a name that is no point and not too long. -/
theorem place_eq_ok_iff {p q : FilePath} :
    t.place p = .ok q ↔ hasNul p = false ∧ ∃ name above parent, fromLast p = name :: above ∧
      t.walk [] above.reverse = .ok (parent, .directory) ∧ ¬ (name = "." ∨ name = "..") ∧
      isTooLong name = false ∧ q = parent ++ [name] := by
  unfold place
  cases noNul : hasNul p with
  | true => simp [Bind.bind, Except.bind]
  | false =>
    cases last : fromLast p with
    | nil => simp
    | cons name above =>
      -- the parent must be a directory; then the last name decides alone
      rcases walked : t.walk [] above.reverse with e | ⟨parent, f | _⟩
      · simp [walked, Bind.bind, Except.bind]
      · simp [walked, Bind.bind, Except.bind]
      · simp only [Bind.bind, Except.bind, walked, Bool.false_eq_true, if_false]
        constructor
        · intro h
          split at h
          · cases h
          · next points =>
            split at h
            · cases h
            · next short =>
              cases h
              exact ⟨trivial, name, above, parent, rfl, walked, points, Bool.eq_false_iff.mpr short, rfl⟩
        · rintro ⟨-, _, _, parent', same, walked', points, short, rfl⟩
          cases same
          rw [walked] at walked'
          cases walked'
          rw [if_neg points, if_neg (by simp [short])]

theorem fromLast_concat {front : FilePath} {name : String} (named : name ≠ "") :
    fromLast (front ++ [name]) = name :: front.reverse := by
  simp [fromLast, named]

/-- A path `front ++ [name]` names a place directly below an existing directory. -/
structure Lands (t : FileTree) (front : FilePath) (name : String) (parent : FilePath) : Prop where
  noNul : hasNul (front ++ [name]) = false
  named : name ≠ ""
  notPoint : name ≠ "."
  notUp : name ≠ ".."
  short : isTooLong name = false
  above : t.walk [] front = .ok (parent, .directory)

namespace Lands

variable {front parent : FilePath} {name : String}

theorem place_eq (h : Lands t front name parent) :
    t.place (front ++ [name]) = .ok (parent ++ [name]) := by
  refine place_eq_ok_iff.mpr ⟨h.noNul, name, front.reverse, parent, fromLast_concat h.named, ?_,
    not_or.mpr ⟨h.notPoint, h.notUp⟩, h.short, rfl⟩
  rw [List.reverse_reverse, h.above]

theorem look_eq (h : Lands t front name parent) {n : Node}
    (found : t.node? (parent ++ [name]) = some n) : t.look (front ++ [name]) = .ok n := by
  have step : descend parent name = .ok (parent ++ [name]) := by
    simp [descend, h.named, h.notPoint, h.notUp, h.short]
  have walked : t.walk [] (front ++ [name]) = .ok (parent ++ [name], n) :=
    walk_concat_eq_ok.mpr ⟨parent, h.above, step, found⟩
  rw [look, h.noNul, walked]
  rfl

/-- The path lands at the same place after something other than a directory has been put
there. -/
theorem put (h : Lands t front name parent) (free : t.node? (parent ++ [name]) ≠ some .directory)
    (n : Node) : Lands (t.put (parent ++ [name]) n) front name parent :=
  { h with above := walk_put free n h.above }

end Lands

/-- A path that does not end in a slash is created at a place where it lands. -/
theorem lands_of_place {p q : FilePath} (h : t.place p = .ok q) (plain : wantsDirectory p = false) :
    ∃ front name parent, p = front ++ [name] ∧ q = parent ++ [name] ∧
      Lands t front name parent := by
  obtain ⟨noNul, last, above, parent, names, walked, points, short, rfl⟩ := place_eq_ok_iff.mp h
  rcases p.eq_nil_or_concat with rfl | ⟨front, name, hp⟩
  · cases names
  · rw [List.concat_eq_append] at hp
    subst hp
    have named : name ≠ "" := by simpa [wantsDirectory] using plain
    rw [fromLast_concat named] at names
    obtain ⟨rfl, rfl⟩ := List.cons.inj names
    rw [List.reverse_reverse] at walked
    obtain ⟨notPoint, notUp⟩ := not_or.mp points
    exact ⟨front, name, parent, rfl, rfl, noNul, named, notPoint, notUp, short, walked⟩

/-! ## Replacing -/

/-- All that a successful replacement does. -/
theorem replace_cases {t' : FileTree} {p : FilePath} {bytes : List UInt8}
    (h : t.replace p bytes = .ok t') :
    ∃ front name parent, p = front ++ [name] ∧ Lands t front name parent ∧
      t.node? (parent ++ [name]) ≠ some .directory ∧
      t' = t.put (parent ++ [name]) (.file ⟨bytes, true⟩) := by
  unfold replace at h
  cases hq : t.place p with
  | error e => simp [hq, Bind.bind, Except.bind] at h
  | ok q =>
    cases plain : wantsDirectory p with
    | true => simp [hq, plain, Bind.bind, Except.bind] at h
    | false =>
      obtain ⟨front, name, parent, rfl, rfl, lands⟩ := lands_of_place hq plain
      refine ⟨front, name, parent, rfl, lands, ?_⟩
      simp only [hq, plain, Bind.bind, Except.bind, Bool.false_eq_true, if_false] at h
      split at h
      · cases h
      · next free =>
        cases h
        exact ⟨free, rfl⟩

/-- A path that lands where no directory is can be replaced with any bytes. -/
theorem Lands.replace_eq {front parent : FilePath} {name : String}
    (h : Lands t front name parent) (free : t.node? (parent ++ [name]) ≠ some .directory)
    (bytes : List UInt8) :
    t.replace (front ++ [name]) bytes = .ok (t.put (parent ++ [name]) (.file ⟨bytes, true⟩)) := by
  have plain : wantsDirectory (front ++ [name]) = false := by simp [wantsDirectory, h.named]
  -- `free` rules out the one branch of the match that refuses
  simp only [replace, h.place_eq, plain, Bind.bind, Except.bind, Bool.false_eq_true, if_false]

theorem look_of_replace {t' : FileTree} {p : FilePath} {bytes : List UInt8}
    (h : t.replace p bytes = .ok t') : t'.look p = .ok (.file ⟨bytes, true⟩) := by
  obtain ⟨front, name, parent, rfl, lands, free, rfl⟩ := replace_cases h
  exact (lands.put free _).look_eq (node?_put_self t (by simp) _)

theorem readText_of_look {p : FilePath} {text : String} {ownerOnly : Bool}
    (h : t.look p = .ok (.file ⟨text.toUTF8.toList, ownerOnly⟩)) : t.readText p = .ok text := by
  have found : t.readBytes p = .ok text.toUTF8.toList := by
    rw [readBytes, h]
    rfl
  rw [readText, found]
  simp only [bind, Except.bind, Text.fromUTF8?_toUTF8]

/-- **What is written is read back**: the text that has been put at a path is the text of the
file there. -/
theorem readText_of_replace {t' : FileTree} {p : FilePath} {text : String}
    (h : t.replace p text.toUTF8.toList = .ok t') : t'.readText p = .ok text :=
  readText_of_look (look_of_replace h)

/-- In a tree without nodes, nothing can be found below the root. -/
theorem hasNode_empty (p : FilePath) {name : String} (named : ¬ (name = "." ∨ name = ""))
    (down : name ≠ "..") : ({} : FileTree).hasNode (p ++ [name]) = false := by
  rw [hasNode, look]
  split
  · rfl
  · cases found : ({} : FileTree).walk [] (p ++ [name]) with
    | error e => rfl
    | ok r =>
      obtain ⟨q, -, step, node⟩ := walk_concat_eq_ok.mp found
      -- the name leads down, to where no node is
      have below : r.1 = q ++ [name] := by
        rw [descend, if_neg named, if_neg down] at step
        split at step
        · cases step
        · exact (Except.ok.inj step).symm
      rw [below, node?, if_neg (by simp)] at node
      cases node

/-! ## The directory around a path

The path of the directory is what stands in front of the last name that is no point. -/

/-- A path has only points, or it has a last name that is none. -/
theorem parentPath_cases (p : FilePath) :
    parentPath p = [] ∧ (∀ name ∈ p, name = "." ∨ name = "") ∨
      ∃ points name points', p = parentPath p ++ points ++ name :: points' ∧
        (∀ point ∈ points, point = "." ∨ point = "") ∧
        (∀ point ∈ points', point = "." ∨ point = "") ∧ ¬ (name = "." ∨ name = "") := by
  let isPoint : String → Bool := fun n => n == "" || n == "."
  have point (names : List String) {name : String} (h : name ∈ (names.takeWhile isPoint).reverse) :
      name = "." ∨ name = "" := by
    have point := List.mem_takeWhile_imp (List.mem_reverse.mp h)
    simpa [isPoint, or_comm] using point
  have parents : parentPath p = (((p.reverse.dropWhile isPoint).drop 1).dropWhile isPoint).reverse :=
    rfl
  have ends := List.takeWhile_append_dropWhile (p := isPoint) (l := p.reverse)
  -- from the back: points, the name, points again, and the parent is what is left
  cases dropped : p.reverse.dropWhile isPoint with
  | nil =>
    refine .inl ⟨by rw [parents, dropped]; rfl, fun name hname => ?_⟩
    rw [dropped, List.append_nil] at ends
    refine point p.reverse ?_
    rw [ends, List.reverse_reverse]
    exact hname
  | cons name above =>
    refine .inr ⟨(above.takeWhile isPoint).reverse, name, (p.reverse.takeWhile isPoint).reverse, ?_,
      fun _ => point above, fun _ => point p.reverse, ?_⟩
    · have front : parentPath p ++ (above.takeWhile isPoint).reverse = above.reverse := by
        rw [parents, dropped, List.drop_one, List.tail_cons, ← List.reverse_append,
          List.takeWhile_append_dropWhile]
      rw [front]
      have whole := congrArg List.reverse ends
      rw [dropped, List.reverse_reverse, List.reverse_append, List.reverse_cons] at whole
      simpa using whole.symm
    · have first := List.head?_dropWhile_not isPoint p.reverse
      rw [dropped] at first
      simpa [isPoint, or_comm] using first

/-- A last name that is no point is what the path of the directory leaves off. -/
theorem parentPath_concat (front : FilePath) {name : String} (named : ¬ (name = "." ∨ name = "")) :
    ∃ points, front = parentPath (front ++ [name]) ++ points ∧
      ∀ point ∈ points, point = "." ∨ point = "" := by
  rcases parentPath_cases (front ++ [name]) with
    ⟨-, pointed⟩ | ⟨points, last, points', split, hpoints, hpoints', -⟩
  · exact absurd (pointed name (by simp)) named
  · refine ⟨points, ?_, hpoints⟩
    rcases points'.eq_nil_or_concat with rfl | ⟨others, point, rfl⟩
    · exact (List.append_inj' split rfl).1
    · rw [List.concat_eq_append, ← List.cons_append, ← List.append_assoc] at split
      have same : [name] = [point] := (List.append_inj' split rfl).2
      cases same
      exact absurd (hpoints' name (by simp)) named

/-- Around what can be reached there is a directory. -/
theorem walk_parentPath {p r : FilePath} {n : Node} (h : t.walk [] p = .ok (r, n)) :
    ∃ d, t.walk [] (parentPath p) = .ok (d, .directory) := by
  rcases parentPath_cases p with ⟨parents, -⟩ | ⟨points, name, points', split, hpoints, -, -⟩
  · rw [parents]
    exact ⟨[], rfl⟩
  · rw [split] at h
    obtain ⟨d, above, -⟩ := walk_append_eq_ok.mp h
    exact ⟨d, walk_of_walk_append_points hpoints above⟩

/-- Where there is a directory, none is made: of its path, the last name that is no point already leads
there. -/
theorem makeDirsRev_of_walk {names : List String} {d : FilePath}
    (noNul : hasNul names.reverse = false) (h : t.walk [] names.reverse = .ok (d, .directory)) :
    t.makeDirsRev names = .ok t := by
  induction names with
  | nil => rfl
  | cons name above ih =>
    rw [makeDirsRev]
    by_cases point : name = "." ∨ name = ""
    · rw [List.reverse_cons] at noNul h
      rw [hasNul, List.any_append, Bool.or_eq_false_iff] at noNul
      rw [if_pos point]
      exact ih noNul.1 (walk_of_walk_append_points (by simpa using point) h)
    · have looked : t.look (name :: above).reverse = .ok .directory := by
        rw [look, noNul, h]
        rfl
      rw [if_neg point]
      simp only [looked]

/-- Above a path that lands, no directory is missing. -/
theorem makeDirs_of_lands {front parent : FilePath} {name : String}
    (h : Lands t front name parent) : t.makeDirs (parentPath (front ++ [name])) = .ok t := by
  have named : ¬ (name = "." ∨ name = "") := not_or.mpr ⟨h.notPoint, h.named⟩
  obtain ⟨points, split, hpoints⟩ := parentPath_concat front named
  have above := h.above
  have noNul := h.noNul
  rw [hasNul, List.any_append, Bool.or_eq_false_iff] at noNul
  generalize parentPath (front ++ [name]) = around at split ⊢
  rw [split] at above noNul
  rw [List.any_append, Bool.or_eq_false_iff] at noNul
  refine makeDirsRev_of_walk (d := parent) ?_ ?_
  · rw [List.reverse_reverse]
    exact noNul.1.1
  · rw [List.reverse_reverse]
    exact walk_of_walk_append_points hpoints above

end AdminPanel.FileTree
