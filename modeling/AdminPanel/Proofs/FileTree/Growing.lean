import AdminPanel.Proofs.FileTree.Elsewhere
import Mathlib.Data.List.Induction

/-!
# Making the directories above a path

What the making of directories leaves of a tree, also where it does not come to its end. In a tree
whose nodes all stand in directories (`Rooted`), directories that are made one below another on a way
(`GrownTo`) show nowhere else: a path that only leads down finds what it found before, and a directory that
was missing has no entries.

## The architecture

* **`Rooted`** — every node stands in a directory. Putting something into a directory keeps that
  (`Rooted.put`), and from it on every directory above a node is there (`Rooted.directory`).
* **`GrownTo way`** — directories have been made where nothing was, at places that the way can need
  (`OnWay`), and a beginning of the way leads to each of them (`GrownTo.reached`). Files are where they were
  (`GrownTo.node?_file_iff`), and what was there is reached as before (`GrownTo.walk_down`).
* **`LeadsDown`** — from some directory that is there, a path only leads down. If the directory around
  such a path is missing, making it brings nothing to the path (`GrownTo.walk_ne_ok`) and nothing into the
  directory (`GrownTo.names_eq_nil`).
* **`look_of_makeDirsRev`** — once the directories have been made, they are there.
-/

namespace AdminPanel.FileTree

variable {t t' : FileTree} {p q r done way : FilePath} {n : Node}

/-! ## Trees without loose nodes -/

/-- Every node stands in a directory. -/
def Rooted (t : FileTree) : Prop :=
  ∀ p, t.node? p ≠ none → t.node? p.dropLast = some .directory

theorem rooted_empty : Rooted {} := by
  intro p found
  by_cases root : p = []
  · rw [root]
    rfl
  · rw [node?, if_neg root] at found
    exact absurd rfl found

namespace Rooted

/-- Above a node there are directories only. -/
theorem directory (h : t.Rooted) (found : t.node? q ≠ none) (above : p <+: q) (ne : p ≠ q) :
    t.node? p = some .directory := by
  -- induction on the place from its end
  induction q using List.reverseRecOn with
  | nil => exact absurd (List.prefix_nil.mp above) ne
  | append_singleton front name ih =>
    have around : t.node? front = some .directory := by
      simpa using h (front ++ [name]) found
    rcases List.prefix_concat_iff.mp above with same | above
    · exact absurd same ne
    · by_cases here : p = front
      · rw [here]
        exact around
      · exact ih (by simp [around]) above here

/-- What is put into a directory, at a place where no directory was, stands in a directory. -/
theorem put (h : t.Rooted) (around : t.node? q.dropLast = some .directory)
    (free : t.node? q ≠ some .directory) (n : Node) : (t.put q n).Rooted := by
  have notRoot : q ≠ [] := by
    rintro rfl
    exact free rfl
  intro p found
  by_cases here : q = p
  · subst here
    have apart : q ≠ q.dropLast := by
      intro same
      exact free (same ▸ around)
    rw [node?_put_of_ne t apart, around]
  · rw [node?_put_of_ne t here] at found
    have above := h p found
    have apart : q ≠ p.dropLast := by
      intro same
      exact free (same ▸ above)
    rw [node?_put_of_ne t apart, above]

end Rooted

/-- A new place is below a directory. -/
theorem directory_of_place (h : t.place p = .ok q) : t.node? q.dropLast = some .directory := by
  obtain ⟨-, name, above, parent, -, walked, -, -, rfl⟩ := place_eq_ok_iff.mp h
  simpa using node?_of_walk walked

/-! ## Directories on a way down -/

/-- The places that a way can need: those on the way down from any directory on it that is there, as far as
it only leads down from it. -/
def OnWay (t : FileTree) (way q : FilePath) : Prop :=
  ∀ front back d, way = front ++ back → t.walk [] front = .ok (d, .directory) → ".." ∉ back →
    q <+: d ++ back.filter (IsProper ·)

/-- A way that goes on needs the same places, unless its end is already there and lies elsewhere. -/
theorem OnWay.concat {name : String} (h : OnWay t way q)
    (same : ∀ d, t.walk [] (way ++ [name]) = .ok (d, .directory) →
      t.walk [] way = .ok (d, .directory)) : OnWay t (way ++ [name]) q := by
  intro front back d split there noUp
  rcases back.eq_nil_or_concat with rfl | ⟨back', last, rfl⟩
  · rw [List.append_nil] at split
    subst split
    exact h way [] d (List.append_nil way).symm (same d there) List.not_mem_nil
  · rw [List.concat_eq_append] at split noUp ⊢
    rw [← List.append_assoc] at split
    have noUp' : ".." ∉ back' := fun up => noUp (List.mem_append_left _ up)
    have needed := h front back' d (List.append_inj' split rfl).1 there noUp'
    rw [List.filter_append, ← List.append_assoc]
    exact needed.trans (List.prefix_append _ _)

/-- A way that leads down from a directory that is there needs nothing that is deeper than its end. -/
theorem not_onWay_of_length {front back d : FilePath} (split : way = front ++ back)
    (there : t.walk [] front = .ok (d, .directory)) (noUp : ".." ∉ back)
    (deeper : (d ++ back.filter (IsProper ·)).length < q.length) : ¬ OnWay t way q := by
  intro needed
  have short := (needed front back d split there noUp).length_le
  omega

/-- A directory that is made at the end of a way is where the way leads. -/
theorem walk_of_place {name : String} (named : name ≠ "") (placed : t.place (way ++ [name]) = .ok q)
    (free : t.node? q = none) :
    (t.put q .directory).walk [] (way ++ [name]) = .ok (q, .directory) := by
  obtain ⟨-, last, above, parent, names, walked, points, short, rfl⟩ := place_eq_ok_iff.mp placed
  rw [fromLast_concat named] at names
  obtain ⟨rfl, rfl⟩ := List.cons.inj names
  rw [List.reverse_reverse] at walked
  have plain : ¬ (name = "." ∨ name = "") := not_or.mpr ⟨(not_or.mp points).1, named⟩
  refine walk_concat_eq_ok.mpr ⟨parent, walk_put (by simp [free]) _ walked, ?_,
    node?_put_self t (by simp) _⟩
  rw [descend, if_neg plain, if_neg (not_or.mp points).2, if_neg (by simp [short])]

/-- Directories have been made where nothing was, each of them in a directory, at places that the way
can need, and so that a beginning of the way leads to it. -/
inductive GrownTo (way : FilePath) (t : FileTree) : FileTree → Prop where
  | refl : GrownTo way t t
  | made {t' : FileTree} {q : FilePath} (before : GrownTo way t t') (free : t'.node? q = none)
      (around : t'.node? q.dropLast = some .directory) (needed : OnWay t way q)
      (reached : ∃ front, front <+: way ∧
        (t'.put q .directory).walk [] front = .ok (q, .directory)) :
      GrownTo way t (t'.put q .directory)

namespace GrownTo

theorem grown (h : GrownTo way t t') : Grown t t' := by
  induction h with
  | refl => exact .refl
  | made before free around needed reached ih => exact .made ih free

theorem rooted (h : GrownTo way t t') (rooted : t.Rooted) : t'.Rooted := by
  induction h with
  | refl => exact rooted
  | made before free around needed reached ih => exact ih.put around (by simp [free]) _

theorem concat {name : String} (h : GrownTo way t t')
    (same : ∀ d, t.walk [] (way ++ [name]) = .ok (d, .directory) →
      t.walk [] way = .ok (d, .directory)) : GrownTo (way ++ [name]) t t' := by
  induction h with
  | refl => exact .refl
  | made before free around needed reached ih =>
    obtain ⟨front, beginning, walked⟩ := reached
    exact .made ih free around (needed.concat same)
      ⟨front, beginning.trans (List.prefix_append _ _), walked⟩

theorem trans {t'' : FileTree} (h : GrownTo way t t') (h' : GrownTo way t' t'') :
    GrownTo way t t'' := by
  induction h' with
  | refl => exact h
  | made before free around needed reached ih =>
    refine .made ih free around (fun front back d split there noUp => ?_) reached
    exact needed front back d split (h.grown.walk there) noUp

/-- The directory at the end of the way may be made, too, if it is missing. -/
theorem makeDir {t'' : FileTree} {name : String} (h : GrownTo (way ++ [name]) t t')
    (named : name ≠ "") (missing : ∀ d, t.walk [] (way ++ [name]) ≠ .ok (d, .directory))
    (last : t'.makeDir (way ++ [name]) = .ok t'') : GrownTo (way ++ [name]) t t'' := by
  obtain ⟨q, placed, free, rfl⟩ := makeDir_cases last
  refine .made h free (directory_of_place placed) (fun front back d split there noUp => ?_)
    ⟨_, List.prefix_refl _, walk_of_place named placed free⟩
  rcases back.eq_nil_or_concat with rfl | ⟨back', last', rfl⟩
  · rw [List.append_nil] at split
    exact absurd (split ▸ there) (missing d)
  · obtain ⟨-, last', above, parent, names, walked, points, -, rfl⟩ := place_eq_ok_iff.mp placed
    rw [fromLast_concat named] at names
    obtain ⟨rfl, rfl⟩ := List.cons.inj names
    rw [List.reverse_reverse] at walked
    rw [List.concat_eq_append] at split noUp ⊢
    rw [← List.append_assoc] at split
    obtain ⟨rfl, same⟩ := List.append_inj' split rfl
    cases same
    -- the place of the new directory is spelled by the names behind the one that is there
    have down := (walk_append_of_directory (h.grown.walk there)).mp walked
    have noUp' : ".." ∉ back' := fun up => noUp (List.mem_append_left _ up)
    obtain ⟨notPoint, notUp⟩ := not_or.mp points
    have proper : IsProper name := ⟨named, notPoint, notUp⟩
    rw [eq_of_walk noUp' down, List.filter_append, List.append_assoc]
    simp [proper]

/-- Whatever is new is a directory to which a beginning of the way leads. -/
theorem reached (h : GrownTo way t t') (new : t'.node? q ≠ t.node? q) :
    ∃ front, front <+: way ∧ t'.walk [] front = .ok (q, .directory) := by
  induction h with
  | refl => exact absurd rfl new
  | @made t' made before free around needed reached ih =>
    obtain ⟨front, beginning, walked⟩ := reached
    by_cases here : made = q
    · exact ⟨front, beginning, here ▸ walked⟩
    · rw [node?_put_of_ne t' here] at new
      obtain ⟨front', beginning', walked'⟩ := ih new
      -- what is made later leaves the way to what was made before
      exact ⟨front', beginning', (Grown.refl.made free).walk walked'⟩

/-- All that can be new is a directory on the way. -/
theorem node?_cases (h : GrownTo way t t') (q : FilePath) :
    t'.node? q = t.node? q ∨
      t.node? q = none ∧ t'.node? q = some .directory ∧ OnWay t way q := by
  induction h with
  | refl => exact .inl rfl
  | @made t' made before free around needed _ ih =>
    by_cases here : made = q
    · subst here
      have notRoot : made ≠ [] := by
        rintro rfl
        cases free
      rcases ih with same | ⟨-, directory, -⟩
      · exact .inr ⟨same ▸ free, node?_put_self t' notRoot _, needed⟩
      · rw [free] at directory
        cases directory
    · rw [node?_put_of_ne t' here]
      exact ih

/-- Where the way needs nothing, nothing is new. -/
theorem node?_ne_none (h : GrownTo way t t') (beyond : ¬ OnWay t way q) (found : t'.node? q ≠ none) :
    t.node? q ≠ none := by
  rcases h.node?_cases q with same | ⟨-, -, needed⟩
  · exact same ▸ found
  · exact absurd needed beyond

/-- Files are where they were. -/
theorem node?_file_iff (h : GrownTo way t t') {f : FileNode} :
    t'.node? q = some (.file f) ↔ t.node? q = some (.file f) := by
  rcases h.node?_cases q with same | ⟨missing, directory, -⟩
  · rw [same]
  · rw [missing, directory]
    simp

/-- What was there is reached as before. -/
theorem walk_down {names : List String} (h : GrownTo way t t') (rooted : t.Rooted)
    (found : t.node? r ≠ none) (between : done <+: r) (noUp : ".." ∉ names)
    (walked : t'.walk done names = .ok (r, n)) : t.walk done names = .ok (r, n) := by
  have same (p : FilePath) (above : p <+: r) : t'.node? p = t.node? p := by
    rcases h.node?_cases p with same | ⟨missing, -, -⟩
    · exact same
    · -- above a node there are directories only
      by_cases here : p = r
      · rw [here] at missing
        exact absurd missing found
      · rw [rooted.directory found above here] at missing
        cases missing
  -- induction on the names; none of them leads up, so that all places are above the last one
  induction names generalizing done with
  | nil =>
    obtain ⟨rfl, here⟩ := walk_nil_eq_ok.mp walked
    exact walk_nil_eq_ok.mpr ⟨rfl, by rw [← here, same r between]⟩
  | cons name names ih =>
    obtain ⟨directory, next, step, rest⟩ := walk_cons_eq_ok.mp walked
    have noUp' : ".." ∉ names := fun later => noUp (List.mem_cons_of_mem _ later)
    have down : next <+: r := by
      rw [eq_of_walk noUp' rest]
      exact List.prefix_append _ _
    refine walk_cons_eq_ok.mpr ⟨?_, next, step, ih down noUp' rest⟩
    rw [← directory, same done between]

end GrownTo

/-! ## The directory around a path

Where it is missing, making directories on the way to it shows neither in it nor at the path. -/

theorem filter_isProper_of_points {names : List String}
    (h : ∀ name ∈ names, name = "." ∨ name = "") : names.filter (IsProper ·) = [] := by
  refine List.filter_eq_nil_iff.mpr fun name hname => ?_
  rcases h name hname with rfl | rfl <;> decide

/-- From some directory that is there, the path only leads down. -/
def LeadsDown (t : FileTree) (p : FilePath) : Prop :=
  ∃ front back d, p = front ++ back ∧ t.walk [] front = .ok (d, .directory) ∧ ".." ∉ back

theorem leadsDown_of_not_mem (t : FileTree) (noUp : ".." ∉ p) : t.LeadsDown p :=
  ⟨[], p, [], rfl, rfl, noUp⟩

/-- Where the directory around such a path is missing, its path leads down, too, and the path has one
proper name more. -/
theorem LeadsDown.cases (h : t.LeadsDown p)
    (missing : ∀ d, t.walk [] (parentPath p) ≠ .ok (d, .directory)) :
    ∃ front mid back d name, t.walk [] front = .ok (d, .directory) ∧
      parentPath p = front ++ mid ∧ ".." ∉ mid ∧ p = front ++ back ∧ ".." ∉ back ∧
      back.filter (IsProper ·) = mid.filter (IsProper ·) ++ [name] := by
  obtain ⟨front, back, d, split, there, noUp⟩ := h
  rcases parentPath_cases p with ⟨parents, -⟩ | ⟨points, name, points', split', hpoints, hpoints', named⟩
  · exact absurd (by rw [parents]; rfl) (missing [])
  · generalize parentPath p = around at missing split' ⊢
    rw [split, List.append_assoc] at split'
    -- the directory that is there is above the parent or below it
    rcases List.append_eq_append_iff.mp split' with ⟨mid, rfl, rfl⟩ | ⟨mid, rfl, -⟩
    · have notUp : name ≠ ".." := by
        rintro rfl
        exact noUp (by simp)
      have proper : IsProper name := ⟨fun e => named (.inr e), fun e => named (.inl e), notUp⟩
      have noUp' : ".." ∉ mid := fun up => noUp (List.mem_append_left _ up)
      refine ⟨front, mid, _, d, name, there, rfl, noUp', split, noUp, ?_⟩
      rw [List.filter_append, List.filter_append, List.filter_cons,
        filter_isProper_of_points hpoints, filter_isProper_of_points hpoints']
      simp [proper]
    · -- the directory around the path would be on the way to the one that is there
      obtain ⟨d', there'⟩ := directory_of_walk_append there
      exact absurd there' (missing d')

theorem node?_ne_none_of_mem {entry : FilePath × Node} (h : entry ∈ t.nodes) :
    t.node? entry.1 ≠ none := by
  rw [node?]
  split
  · simp
  · rw [ne_eq, Option.map_eq_none_iff, List.find?_eq_none]
    intro absent
    exact absent entry h (by simp)

theorem hasNode_eq_false (h : ∀ r n, t.walk [] p ≠ .ok (r, n)) : t.hasNode p = false := by
  cases looked : t.look p with
  | error e =>
    rw [hasNode, looked]
    rfl
  | ok n =>
    obtain ⟨-, r, walked⟩ := look_eq_ok_iff.mp looked
    exact absurd walked (h r n)

namespace GrownTo

variable (h : GrownTo (parentPath p) t t') (rooted : t.Rooted) (down : t.LeadsDown p)
  (missing : ∀ d, t.walk [] (parentPath p) ≠ .ok (d, .directory))

include h rooted down missing

/-- Where the directory around a path is missing, making directories brings nothing to the path. -/
theorem walk_ne_ok (r : FilePath) (n : Node) :
    t.walk [] p ≠ .ok (r, n) ∧ t'.walk [] p ≠ .ok (r, n) := by
  have before (r : FilePath) (n : Node) : t.walk [] p ≠ .ok (r, n) := by
    intro walked
    obtain ⟨d, around⟩ := walk_parentPath walked
    exact missing d around
  refine ⟨before r n, fun walked => ?_⟩
  obtain ⟨front, mid, back, d, name, there, around, noUp', split, noUp, spelled⟩ := down.cases missing
  rw [split] at walked before
  have walked' := (walk_append_of_directory (h.grown.walk there)).mp walked
  have place : r = d ++ mid.filter (IsProper ·) ++ [name] := by
    rw [eq_of_walk noUp walked', spelled, List.append_assoc]
  -- the way ends above the place
  have beyond : ¬ OnWay t (parentPath p) r := by
    refine not_onWay_of_length around there noUp' ?_
    rw [place]
    simp only [List.length_append, List.length_singleton]
    omega
  have found : t.node? r ≠ none := h.node?_ne_none beyond (by simp [node?_of_walk walked])
  have between : d <+: r := by
    rw [eq_of_walk noUp walked']
    exact List.prefix_append _ _
  have walked'' := h.walk_down rooted found between noUp walked'
  exact before r n ((walk_append_of_directory there).mpr walked'')

/-- Where the directory around a path is missing, no node stands in the directory that has been made. -/
theorem dropLast_ne (around' : t'.walk [] (parentPath p) = .ok (q, .directory)) (found : t'.node? r ≠ none)
    (named : r ≠ []) : r.dropLast ≠ q := by
  intro inside
  obtain ⟨front, mid, back, d, name, there, around, noUp, -, -, -⟩ := down.cases missing
  have walked : t'.walk [] (front ++ mid) = .ok (q, .directory) := around ▸ around'
  have walked' := (walk_append_of_directory (h.grown.walk there)).mp walked
  have here : q = d ++ mid.filter (IsProper ·) := eq_of_walk noUp walked'
  -- a node that stands there is beyond the way, and its directory was there before
  have beyond : ¬ OnWay t (parentPath p) r := by
    refine not_onWay_of_length around there noUp ?_
    have some := List.length_pos_iff.mpr named
    rw [← here, ← inside, List.length_dropLast]
    omega
  have directory := rooted r (h.node?_ne_none beyond found)
  rw [inside] at directory
  have between : d <+: q := by
    rw [here]
    exact List.prefix_append _ _
  have walked'' := h.walk_down rooted (by simp [directory]) between noUp walked'
  have before : t.walk [] (front ++ mid) = .ok (q, .directory) :=
    (walk_append_of_directory there).mpr walked''
  exact missing q (around ▸ before)

/-- Where the directory around a path is missing, it has no entries, and none are brought. -/
theorem names_eq_nil : t.names (parentPath p) = [] ∧ t'.names (parentPath p) = [] := by
  constructor
  · unfold names
    split
    · next q walked => exact absurd walked (missing q)
    · rfl
  · unfold names
    split
    · next q walked =>
      -- the parent has been made just now, and no node stands in it
      suffices none : List.filterMap _ t'.nodes = [] by
        rw [none]
        exact List.mergeSort_nil
      refine List.filterMap_eq_nil_iff.mpr fun entry listed => ?_
      split
      · next name last =>
        have named : entry.1 ≠ [] := by
          intro root
          simp [root] at last
        exact if_neg (h.dropLast_ne rooted down missing walked (node?_ne_none_of_mem listed) named)
      · rfl
    · rfl

end GrownTo

/-! ## Directories that have been made -/

/-- One name that leads nowhere new may be added to the path of a directory. -/
theorem look_concat {front : FilePath} {name : String} (looked : t.look front = .ok .directory)
    (plain : (name = "." ∨ name = "") ∨ name = "..") :
    t.look (front ++ [name]) = .ok .directory := by
  obtain ⟨noNul, d, walked⟩ := look_eq_ok_iff.mp looked
  have noNul' : hasNul (front ++ [name]) = false := by
    have last : hasNul [name] = false := by rcases plain with (rfl | rfl) | rfl <;> decide
    rw [hasNul, List.any_append]
    exact Bool.or_eq_false_iff.mpr ⟨noNul, last⟩
  refine look_eq_ok_iff.mpr ⟨noNul', ?_⟩
  rcases plain with point | rfl
  · refine ⟨d, walk_concat_eq_ok.mpr ⟨d, walked, ?_, node?_of_walk walked⟩⟩
    rw [descend, if_pos point]
  · -- one step up from a directory there is another
    exact ⟨d.dropLast, walk_concat_eq_ok.mpr ⟨d, walked, rfl, directory_above_of_walk walked⟩⟩

/-- The directories are there once they have been made. -/
theorem look_of_makeDirsRev {names : List String} (h : t.makeDirsRev names = .ok t') :
    t'.look names.reverse = .ok .directory := by
  -- induction on the names, from the last to the first
  induction names generalizing t' with
  | nil => rfl
  | cons name above ih =>
    cases dirsMade_of_makeDirsRev h with
    | point point made =>
      rw [List.reverse_cons]
      exact look_concat (ih made) (.inl point)
    | there there => exact there
    | up up made =>
      rw [List.reverse_cons]
      exact look_concat (ih made) (.inr up)
    | @last mid _ plain made last =>
      obtain ⟨q, placed, free, rfl⟩ := makeDir_cases last
      rw [List.reverse_cons] at placed ⊢
      have wants : wantsDirectory (above.reverse ++ [name]) = false := by
        simpa [wantsDirectory] using fun e => plain (.inr e)
      obtain ⟨front, last', parent, split, rfl, lands⟩ := lands_of_place placed wants
      obtain ⟨rfl, rfl⟩ : above.reverse = front ∧ name = last' := by
        have parts := List.append_inj' split rfl
        simpa using parts
      have lands' := lands.put (by simp [free]) .directory
      exact lands'.look_eq (node?_put_self mid (by simp) _)

end AdminPanel.FileTree
