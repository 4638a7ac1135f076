import AdminPanel.Proofs.FileTree.Growing
import AdminPanel.Proofs.FileTree.Renaming
import AdminPanel.Proofs.Storage.Frame
import AdminPanel.Proofs.Storage.Steps
import AdminPanel.Proofs.Storage.Unusable

/-!
# Operations that break off

What an operation on a storage file leaves if the system refuses one of its steps, and how it differs from
one that meets no refusal.

## The architecture

* **`runOnTree_makeDirsRev`** — making directories leaves the tree grown on the way to them, whether or
  not it comes to its end.
* **`runOnTree_putInPlace`** — putting a file in place is all or nothing: whichever step fails, the
  temporary file is taken away and the tree is what it was, if it can be taken away (`Tidy`).
* **`attempt_cases`** — the ways in which an operation can end. One that succeeds has done what it does
  where nothing is refused, if it has not missed a file that is there (`Sees`); one that fails has made
  directories at most.
* **`Conditions.Bars`** — the file is found and cannot be read: every operation fails and changes nothing.
  **`Conditions.Calm`** — nothing is refused, and the temporary name is free: the response is that of the
  storage.
* **`OnlyGrown`** — what failures leave. Whoever asks for an item over such a tree is told what he would
  have been told before (`OnlyGrown.attempt_get_eq`).
-/

namespace AdminPanel.Storage

open FileTree (parentPath Grown GrownTo)

/-! ## Steps on a tree -/

variable {α β : Type}

@[simp] theorem runOnTree_pure (a : α) (t : FileTree) :
    runOnTree (pure a) t = (.ok a, t) := rfl

@[simp] theorem runOnTree_throw (e : FileFault) (t : FileTree) :
    runOnTree (throw e : OnTree α) t = (.error e, t) := rfl

@[simp] theorem runOnTree_get (t : FileTree) : runOnTree get t = (.ok t, t) := rfl

@[simp] theorem runOnTree_set (t' t : FileTree) :
    runOnTree (set t' : OnTree PUnit) t = (.ok ⟨⟩, t') := rfl

@[simp] theorem runOnTree_modify (f : FileTree → FileTree) (t : FileTree) :
    runOnTree (modify f : OnTree PUnit) t = (.ok ⟨⟩, f t) := rfl

theorem runOnTree_bind (act : OnTree α) (f : α → OnTree β) (t : FileTree) :
    runOnTree (act >>= f) t =
      match runOnTree act t with
      | (.ok a, t') => runOnTree (f a) t'
      | (.error e, t') => (.error e, t') := by
  unfold runOnTree
  rw [ExceptT.run_bind, StateT.run_bind]
  show (StateT.run _ ((ExceptT.run act).run t).2) = _
  rcases (ExceptT.run act).run t with ⟨_ | _, _⟩ <;> rfl

/-- What is done about a failure is done to the tree that the failure leaves. -/
theorem runOnTree_tryCatch (act : OnTree α) (handle : FileFault → OnTree α) (t : FileTree) :
    runOnTree (tryCatch act handle) t =
      match runOnTree act t with
      | (.ok a, t') => (.ok a, t')
      | (.error e, t') => runOnTree (handle e) t' := by
  unfold runOnTree
  rw [ExceptT.run_tryCatch, StateT.run_bind]
  show (StateT.run _ ((ExceptT.run act).run t).2) = _
  rcases (ExceptT.run act).run t with ⟨_ | _, _⟩ <;> rfl

theorem runOnTree_whole (op : FileTree → Except FileFault FileTree) (t : FileTree) :
    runOnTree (.whole op) t =
      match op t with
      | .error e => (.error e, t)
      | .ok t' => (.ok (), t') := by
  unfold OnTree.whole
  rw [runOnTree_bind, runOnTree_get]
  show runOnTree (match op t with
    | .error e => throw e
    | .ok t => set t) t = _
  cases op t <;> rfl

/-! ## What the steps of a replacement leave -/

namespace Conditions

variable {w : Conditions} {t t' : FileTree} {path q : FilePath}

theorem runOnTree_pass (s : FileStep) (t : FileTree) :
    runOnTree (w.pass s) t =
      match w.refuses s with
      | some e => (.error e, t)
      | none => (.ok (), t) := by
  unfold pass
  cases w.refuses s <;> rfl

/-- Making directories leaves the tree grown on the way, also if it does not come to its end. It ends as
it does where nothing is refused, unless a directory is. -/
theorem runOnTree_makeDirsRev (names : List String) (t : FileTree) :
    ∃ t', GrownTo names.reverse t t' ∧
      (runOnTree (w.makeDirsRev names) t = (.ok (), t') ∧ t.makeDirsRev names = .ok t' ∨
        ∃ e, runOnTree (w.makeDirsRev names) t = (.error e, t') ∧
          (t.makeDirsRev names = .error e ∨ ∃ s, w.refuses s = some e)) := by
  -- induction on the names, from the last to the first
  induction names with
  | nil => exact ⟨t, .refl, .inl ⟨rfl, rfl⟩⟩
  | cons name above ih =>
    obtain ⟨mid, grown, ends⟩ := ih
    rw [makeDirsRev, FileTree.makeDirsRev]
    by_cases point : name = "." ∨ name = ""
    · rw [if_pos point, if_pos point, List.reverse_cons]
      refine ⟨mid, grown.concat fun d walked => ?_, ends⟩
      exact FileTree.walk_of_walk_append_points (by simpa using point) walked
    · rw [if_neg point, if_neg point]
      simp only [runOnTree_bind, runOnTree_get]
      cases looked : t.look (name :: above).reverse with
      | ok found =>
        cases found with
        | directory => exact ⟨t, .refl, .inl ⟨rfl, rfl⟩⟩
        | file f => exact ⟨t, .refl, .inr ⟨_, rfl, .inl rfl⟩⟩
      | error e =>
        cases e with
        | notFound =>
          have missing (d : FilePath) : t.walk [] (above.reverse ++ [name]) ≠ .ok (d, .directory) := by
            rw [← List.reverse_cons]
            exact FileTree.walk_ne_ok_of_look looked _
          have further : GrownTo (above.reverse ++ [name]) t mid :=
            grown.concat fun d walked => absurd walked (missing d)
          rw [List.reverse_cons]
          -- the directories above have been made, or one of them could not be
          simp only [runOnTree_bind]
          rcases ends with ⟨done, made⟩ | ⟨e, failed, why⟩
          · rw [done, made]
            show ∃ t', _ ∧ (runOnTree (if name = ".." then pure () else _) mid = _ ∧
              (if name = ".." then Except.ok mid else mid.makeDir _) = _ ∨ _)
            by_cases up : name = ".."
            · rw [if_pos up, if_pos up]
              exact ⟨mid, further, .inl ⟨rfl, rfl⟩⟩
            · rw [if_neg up, if_neg up]
              simp only [runOnTree_bind, runOnTree_pass]
              cases refused : w.refuses (.makeDirectory (above.reverse ++ [name])) with
              | some e => exact ⟨mid, further, .inr ⟨e, rfl, .inr ⟨_, refused⟩⟩⟩
              | none =>
                simp only [runOnTree_whole]
                cases last : mid.makeDir (above.reverse ++ [name]) with
                | error e => exact ⟨mid, further, .inr ⟨e, rfl, .inl ((if_neg up).trans last)⟩⟩
                | ok t' =>
                  have named : name ≠ "" := fun e => point (.inr e)
                  exact ⟨t', further.makeDir named missing last, .inl ⟨rfl, rfl⟩⟩
          · rw [failed]
            refine ⟨mid, further, .inr ⟨e, rfl, why.imp_left fun same => ?_⟩⟩
            rw [same]
            rfl
        | _ => exact ⟨t, .refl, .inr ⟨_, rfl, .inl rfl⟩⟩

/-- Where the directory is, none is made, and nothing else is done. -/
theorem runOnTree_makeDirsRev_of_walk {names : List String} {d : FilePath}
    (h : t.walk [] names.reverse = .ok (d, .directory)) :
    (runOnTree (w.makeDirsRev names) t).2 = t := by
  induction names with
  | nil => rfl
  | cons name above ih =>
    rw [makeDirsRev]
    by_cases point : name = "." ∨ name = ""
    · rw [List.reverse_cons] at h
      rw [if_pos point]
      exact ih (FileTree.walk_of_walk_append_points (by simpa using point) h)
    · rw [if_neg point]
      simp only [runOnTree_bind, runOnTree_get]
      cases noNul : FileTree.hasNul (name :: above).reverse with
      | true =>
        rw [FileTree.look, noNul]
        rfl
      | false =>
        rw [FileTree.look, noNul, h]
        rfl

/-- The temporary file is made where nothing is, or not at all. -/
theorem runOnTree_createTemporary (directory : FilePath) (t : FileTree) :
    (∃ e, runOnTree (w.createTemporary directory) t = (.error e, t)) ∨
      ∃ q, t.node? q = none ∧
        runOnTree (w.createTemporary directory) t = (.ok q, t.put q (.file ⟨[], true⟩)) := by
  unfold createTemporary
  simp only [runOnTree_bind, runOnTree_pass, runOnTree_get]
  cases w.refuses .create with
  | some e => exact .inl ⟨e, rfl⟩
  | none =>
    simp only
    cases t.place (directory ++ [w.temporary]) with
    | error e => exact .inl ⟨e, rfl⟩
    | ok q =>
      simp only
      cases free : t.node? q with
      | some n => exact .inl ⟨_, rfl⟩
      | none => exact .inr ⟨q, free, rfl⟩

/-- The temporary file can be taken away again. -/
def Tidy (w : Conditions) : Prop := w.refuses .discard = none

theorem Tidy.runOnTree_discard (tidy : w.Tidy) (q : FilePath) (t : FileTree) :
    runOnTree (w.discard q) t = (.ok (), t.erase q) := by
  have granted : w.refuses .discard = none := tidy
  rw [discard, granted]
  rfl

/-- Whichever step of its completion fails, there is nothing but the temporary file to be taken away. If
none fails, the file is in place as if it had been put there at once. -/
theorem runOnTree_complete (free : t.node? q = none) (path : FilePath) (bytes : List UInt8) :
    (∃ e left, runOnTree (w.complete q path bytes) (t.put q (.file ⟨[], true⟩)) = (.error e, left) ∧
        left.erase q = t) ∨
      ∃ t', runOnTree (w.complete q path bytes) (t.put q (.file ⟨[], true⟩)) = (.ok (), t') ∧
        t.replace path bytes = .ok t' := by
  unfold complete fill
  simp only [runOnTree_bind, runOnTree_pass]
  -- whichever step is refused, what is left is the temporary file, whole or in part
  cases w.refuses .write with
  | some e =>
    refine .inl ⟨e, t.put q (.file ⟨bytes.take w.arrived, true⟩), ?_, FileTree.erase_put free _⟩
    simp only [runOnTree_bind, runOnTree_modify, runOnTree_throw, FileTree.put_put]
  | none =>
    simp only [runOnTree_modify, FileTree.put_put]
    have taken := FileTree.erase_put free (.file ⟨bytes, true⟩)
    cases w.refuses .sync with
    | some e => exact .inl ⟨e, _, rfl, taken⟩
    | none =>
      simp only
      cases w.refuses .rename with
      | some e => exact .inl ⟨e, _, rfl, taken⟩
      | none =>
        simp only [runOnTree_whole]
        cases renamed : (t.put q (.file ⟨bytes, true⟩)).rename q path with
        | error e => exact .inl ⟨e, _, rfl, taken⟩
        | ok t' => exact .inr ⟨t', rfl, (FileTree.rename_eq_ok_iff free bytes).mp renamed⟩

/-- **Putting a file in place is all or nothing**, if what is left of a failure can be taken away. -/
theorem runOnTree_putInPlace (path : FilePath) (bytes : List UInt8) (t : FileTree) :
    (∃ e left, runOnTree (w.putInPlace path bytes) t = (.error e, left) ∧ (w.Tidy → left = t)) ∨
      ∃ t', runOnTree (w.putInPlace path bytes) t = (.ok (), t') ∧
        t.replace path bytes = .ok t' := by
  unfold putInPlace
  rw [runOnTree_bind]
  rcases runOnTree_createTemporary (w := w) (parentPath path) t with ⟨e, failed⟩ | ⟨q, free, created⟩
  · exact .inl ⟨e, t, by rw [failed], fun _ => rfl⟩
  · rw [created]
    simp only
    rcases runOnTree_complete (w := w) free path bytes with ⟨e, mid, failed, taken⟩ | ⟨t', done, replaced⟩
    · refine .inl ⟨e, (runOnTree (w.discard q) mid).2, ?_, fun tidy => ?_⟩
      · show runOnTree (tryCatch _ _) _ = _
        rw [runOnTree_tryCatch, failed]
        simp only [runOnTree_bind, discard]
        cases w.refuses .discard <;> rfl
      · rw [tidy.runOnTree_discard, taken]
    · refine .inr ⟨t', ?_, replaced⟩
      show runOnTree (tryCatch _ _) _ = _
      rw [runOnTree_tryCatch, done]

end Conditions

/-! ## What failures leave -/

/-- What operations that fail leave of a tree: the directories above the path may have been made as far
as it went. Where the directory around the path is there, nothing has changed at all. -/
structure OnlyGrown (path : FilePath) (t t' : FileTree) : Prop where
  grown : GrownTo (parentPath path) t t'
  there : (∃ d, t.walk [] (parentPath path) = .ok (d, .directory)) → t' = t

namespace OnlyGrown

variable {t t' t'' : FileTree} {path : FilePath}

theorem refl (path : FilePath) (t : FileTree) : OnlyGrown path t t := ⟨.refl, fun _ => rfl⟩

theorem trans (h : OnlyGrown path t t') (h' : OnlyGrown path t' t'') : OnlyGrown path t t'' := by
  refine ⟨h.grown.trans h'.grown, fun there => ?_⟩
  have same := h.there there
  rw [← same] at there
  rw [h'.there there, same]

variable (h : OnlyGrown path t t') (rooted : t.Rooted) (down : t.LeadsDown path)

include h rooted down

/-- The directory around the path has the entries that it had, or is missing as it was, or is new and
empty. -/
theorem names_eq : t'.names (parentPath path) = t.names (parentPath path) := by
  by_cases there : ∃ d, t.walk [] (parentPath path) = .ok (d, .directory)
  · rw [h.there there]
  · have missing := not_exists.mp there
    obtain ⟨before, after⟩ := h.grown.names_eq_nil rooted down missing
    rw [before, after]

/-- What stands at the path, if anything, is what stood there. -/
theorem hasNode_readItems_eq :
    t'.hasNode path = t.hasNode path ∧ readItems t' path = readItems t path := by
  by_cases there : ∃ d, t.walk [] (parentPath path) = .ok (d, .directory)
  · rw [h.there there]
    exact ⟨rfl, rfl⟩
  · have missing := not_exists.mp there
    have before : t.hasNode path = false :=
      FileTree.hasNode_eq_false fun r n => (h.grown.walk_ne_ok rooted down missing r n).1
    have after : t'.hasNode path = false :=
      FileTree.hasNode_eq_false fun r n => (h.grown.walk_ne_ok rooted down missing r n).2
    refine ⟨after.trans before.symm, ?_⟩
    rw [readItems_eq_ok_iff.mpr (.absent before), readItems_eq_ok_iff.mpr (.absent after)]

theorem get_eq (name : String) : Store.get ⟨.file path, t'⟩ name = Store.get ⟨.file path, t⟩ name := by
  rw [Store.get_file, Store.get_file, (h.hasNode_readItems_eq rooted down).2]

/-- The same is read in the same conditions, whatever these are. -/
theorem attempt_get_eq (w : Conditions) (name : String) :
    ((Request.get name).attempt w path t').1 = ((Request.get name).attempt w path t).1 := by
  obtain ⟨same, read⟩ := h.hasNode_readItems_eq rooted down
  have items : w.readItems t' path = w.readItems t path := by
    rw [Conditions.readItems, Conditions.readItems, Conditions.finds, Conditions.finds, same, read]
  rw [Request.attempt, Request.attempt, items]
  cases w.readItems t path <;> rfl

end OnlyGrown

/-! ## Operations -/

variable {w : Conditions} {files files' : FileTree} {path : FilePath} {items : Items}

/-- A replacement that succeeds is the one that is done where nothing is refused. -/
theorem runOnTree_replaceItems (w : Conditions) (path : FilePath) (items : Items)
    (files : FileTree) :
    (∃ e files', runOnTree (w.replaceItems path items) files = (.error e, files') ∧
        (w.Tidy → OnlyGrown path files files')) ∨
      ∃ files', runOnTree (w.replaceItems path items) files = (.ok (), files') ∧
        replaceItems files path items = .ok files' := by
  unfold Conditions.replaceItems
  rw [runOnTree_bind]
  obtain ⟨made, grown, ends⟩ :=
    Conditions.runOnTree_makeDirsRev (w := w) (parentPath path).reverse files
  rw [List.reverse_reverse] at grown
  -- where the parent is there already no directory is made
  have there : (∃ d, files.walk [] (parentPath path) = .ok (d, .directory)) →
      (runOnTree (w.makeDirsRev (parentPath path).reverse) files).2 = files := by
    rintro ⟨d, walked⟩
    rw [← List.reverse_reverse (parentPath path)] at walked
    exact Conditions.runOnTree_makeDirsRev_of_walk walked
  rcases ends with ⟨done, made_eq⟩ | ⟨e, failed, -⟩
  · rw [done] at there ⊢
    simp only
    rcases Conditions.runOnTree_putInPlace (w := w) path items.document.toUTF8.toList made with
      ⟨e, left, failed, same⟩ | ⟨files', put, replaced⟩
    · refine .inl ⟨e, left, failed, fun tidy => ?_⟩
      rw [same tidy]
      exact ⟨grown, there⟩
    · exact .inr ⟨files', put, replaceItems_eq_ok_iff.mpr ⟨made, made_eq, replaced⟩⟩
  · rw [failed] at there ⊢
    exact .inl ⟨e, made, rfl, fun _ => ⟨grown, there⟩⟩

/-- A file that is there is found. -/
def Conditions.Sees (w : Conditions) (path : FilePath) (files : FileTree) : Prop :=
  w.finds files path = files.hasNode path

theorem Conditions.sees_of_granted (granted : w.refuses .look = none) (path : FilePath)
    (files : FileTree) : w.Sees path files := by
  rw [Conditions.Sees, Conditions.finds, granted]
  rfl

/-- What is read is what is read where nothing is refused, unless the file is not found, or reading it is
refused. -/
theorem Conditions.readItems_cases (w : Conditions) (files : FileTree) (path : FilePath) :
    (w.readItems files path = Storage.readItems files path ∨
      w.readItems files path = .ok [] ∧ ¬ w.Sees path files) ∨
      ∃ e, w.readItems files path = .error (.io e) ∧ w.refuses .read = some e := by
  unfold Conditions.readItems
  cases found : w.finds files path with
  | false =>
    cases there : files.hasNode path with
    | false =>
      rw [Storage.readItems, there]
      exact .inl (.inl rfl)
    | true =>
      refine .inl (.inr ⟨rfl, fun sees => ?_⟩)
      rw [Conditions.Sees, found, there] at sees
      cases sees
  | true =>
    cases w.refuses .read with
    | some e => exact .inr ⟨e, rfl, rfl⟩
    | none => exact .inl (.inl rfl)

/-- How an attempt can end, by what is done where nothing is refused: if it succeeds, and has not missed
the file, it has done that; if it fails, and leaves nothing of the temporary file, it has made directories
at most. -/
inductive AttemptCases (w : Conditions) (path : FilePath) (files : FileTree)
    (whole : Response × Store) : Response × FileTree → Prop where
  | done (v : Option String) (files' : FileTree)
      (same : w.Sees path files → whole = (.ok v, ⟨.file path, files'⟩)) :
      AttemptCases w path files whole (.ok v, files')
  | failed (e : Fault) (files' : FileTree) (left : w.Tidy → OnlyGrown path files files') :
      AttemptCases w path files whole (.error e, files')

theorem Conditions.readItems_of_sees (w : Conditions) (sees : w.Sees path files)
    (read : w.readItems files path = .ok items) : Storage.readItems files path = .ok items := by
  rcases w.readItems_cases files path with (same | ⟨-, missed⟩) | ⟨e, failed, -⟩
  · rw [← same, read]
  · exact absurd sees missed
  · rw [read] at failed
    cases failed

/-- What is left to do after reading, done as far as it comes. -/
theorem Plan.attempt_cases (p : Plan) (w : Conditions) (path : FilePath) (files : FileTree) :
    AttemptCases w path files
      ((p.finish files path).1, ⟨.file path, (p.finish files path).2⟩) (p.attempt w path files) := by
  cases p with
  | answer response =>
    cases response with
    | error e => exact .failed e files fun _ => .refl path files
    | ok v => exact .done v files fun _ => rfl
  | replace items =>
    simp only [Plan.attempt]
    rcases runOnTree_replaceItems w path items files with
      ⟨e, files', failed, left⟩ | ⟨files', done, replaced⟩
    · rw [failed]
      exact .failed (.io e) files' left
    · rw [done]
      refine .done none files' fun _ => ?_
      rw [Plan.finish, replaced]

/-- **An operation is done as a whole, or makes directories at most.** -/
theorem attempt_cases (r : Request) (w : Conditions) (path : FilePath) (files : FileTree) :
    AttemptCases w path files (Store.serve ⟨.file path, files⟩ r) (r.attempt w path files) := by
  have whole := serve_eq_steps files path r
  have ended := (r.plan (w.readItems files path)).attempt_cases w path files
  unfold Request.attempt
  rcases w.readItems_cases files path with (same | ⟨-, missed⟩) | ⟨e, refused, -⟩
  · rw [whole, ← same]
    exact ended
  · -- a file that has been missed is none to compare with
    generalize (r.plan (w.readItems files path)).attempt w path files = left at ended
    cases ended with
    | done v files' => exact .done v files' fun sees => absurd sees missed
    | failed e files' left => exact .failed e files' left
  · rw [refused]
    have answers : r.plan (.error (.io e)) = .answer (.error (.io e)) := by cases r <;> rfl
    rw [answers]
    exact .failed (.io e) files fun _ => .refl path files

/-! ## Operations that cannot read -/

/-- The file of a storage is found and cannot be read: what stands there is unusable, or the system refuses
to read it. -/
structure Conditions.Bars (w : Conditions) (path : FilePath) (files : FileTree) : Prop where
  found : w.finds files path = true
  unread : Unusable files path ∨ ∃ e, w.refuses .read = some e

theorem Conditions.Bars.readItems (h : w.Bars path files) :
    ∃ e, w.readItems files path = .error e := by
  rw [Conditions.readItems, h.found]
  cases refused : w.refuses .read with
  | some e => exact ⟨.io e, rfl⟩
  | none =>
    rcases h.unread with unusable | ⟨e, refused'⟩
    · exact readItems_eq_error_iff.mpr unusable
    · rw [refused] at refused'
      cases refused'

/-- **What cannot be read is not overwritten**: every operation fails, and all is as it was. -/
theorem Conditions.Bars.attempt (h : w.Bars path files) (r : Request) :
    ∃ e, r.attempt w path files = (.error e, files) := by
  obtain ⟨e, failed⟩ := h.readItems
  have answers : r.plan (.error e) = .answer (.error e) := by cases r <;> rfl
  refine ⟨e, ?_⟩
  rw [Request.attempt, failed, answers]
  rfl

/-! ## Operations that nothing disturbs -/

namespace Conditions

/-- Nothing is refused, and the name of the temporary file is one that neither the path nor the directory
around it has. -/
structure Calm (w : Conditions) (path : FilePath) (files : FileTree) : Prop where
  granted : ∀ s, w.refuses s = none
  proper : FileTree.IsProper w.temporary
  short : FileTree.isTooLong w.temporary = false
  noNul : FileTree.hasNul [w.temporary] = false
  unknown : w.temporary ∉ path
  spare : ∀ made d, files.makeDirs (parentPath path) = .ok made →
    made.walk [] (parentPath path) = .ok (d, .directory) → made.node? (d ++ [w.temporary]) = none

variable {made : FileTree} {d : FilePath}

theorem Calm.tidy (calm : w.Calm path files) : w.Tidy := calm.granted _

/-- A temporary file can be made in the directory around the path. -/
theorem Calm.createTemporary (calm : w.Calm path files)
    (there : made.look (parentPath path) = .ok .directory)
    (spare : ∀ d, made.walk [] (parentPath path) = .ok (d, .directory) →
      made.node? (d ++ [w.temporary]) = none) :
    ∃ d, made.node? (d ++ [w.temporary]) = none ∧
      runOnTree (w.createTemporary (parentPath path)) made =
        (.ok (d ++ [w.temporary]), made.put (d ++ [w.temporary]) (.file ⟨[], true⟩)) := by
  obtain ⟨noNul, d, walked⟩ := FileTree.look_eq_ok_iff.mp there
  have free := spare d walked
  have placed : made.place (parentPath path ++ [w.temporary]) = .ok (d ++ [w.temporary]) := by
    obtain ⟨named, notPoint, notUp⟩ := calm.proper
    refine FileTree.place_eq_ok_iff.mpr ⟨?_, w.temporary, (parentPath path).reverse, d,
      FileTree.fromLast_concat named, ?_, not_or.mpr ⟨notPoint, notUp⟩, calm.short, rfl⟩
    · rw [FileTree.hasNul, List.any_append]
      exact Bool.or_eq_false_iff.mpr ⟨noNul, calm.noNul⟩
    · rw [List.reverse_reverse, walked]
  refine ⟨d, free, ?_⟩
  unfold Conditions.createTemporary
  simp only [runOnTree_bind, runOnTree_pass, calm.granted, runOnTree_get, placed, free]
  rfl

/-- A new file is put in place as it is where it is put there at once. -/
theorem Calm.putInPlace (calm : w.Calm path files)
    (there : made.look (parentPath path) = .ok .directory)
    (spare : ∀ d, made.walk [] (parentPath path) = .ok (d, .directory) →
      made.node? (d ++ [w.temporary]) = none) (bytes : List UInt8) :
    (runOnTree (w.putInPlace path bytes) made).1 = (made.replace path bytes).map fun _ => () := by
  obtain ⟨d, free, created⟩ := calm.createTemporary there spare
  -- with nothing refused, only the rename can fail, and it fails where the whole replacement would
  have renamed := FileTree.rename_eq free calm.unknown bytes
  have completed :
      runOnTree (w.complete (d ++ [w.temporary]) path bytes)
          (made.put (d ++ [w.temporary]) (.file ⟨[], true⟩)) =
        match made.replace path bytes with
        | .error e => (.error e, made.put (d ++ [w.temporary]) (.file ⟨bytes, true⟩))
        | .ok t' => (.ok (), t') := by
    unfold complete fill
    simp only [runOnTree_bind, runOnTree_pass, calm.granted, runOnTree_modify, FileTree.put_put,
      runOnTree_whole, renamed]
  unfold Conditions.putInPlace
  rw [runOnTree_bind, created]
  show (runOnTree (tryCatch _ _) _).1 = _
  rw [runOnTree_tryCatch, completed]
  cases made.replace path bytes with
  | error e => simp [runOnTree_bind, calm.tidy.runOnTree_discard, Except.map]
  | ok t' => rfl

theorem Calm.replaceItems (calm : w.Calm path files) (items : Items) :
    (runOnTree (w.replaceItems path items) files).1.mapError Fault.io =
      (Storage.replaceItems files path items).map fun _ => () := by
  unfold Conditions.replaceItems Storage.replaceItems
  rw [runOnTree_bind]
  obtain ⟨made, -, ends⟩ := runOnTree_makeDirsRev (w := w) (parentPath path).reverse files
  rcases ends with ⟨done, made_eq⟩ | ⟨e, failed, failed' | ⟨s, refused⟩⟩
  · have there := FileTree.look_of_makeDirsRev made_eq
    rw [List.reverse_reverse] at there
    have put := calm.putInPlace there (fun d => calm.spare made d made_eq) items.document.toUTF8.toList
    rw [done, FileTree.makeDirs, made_eq]
    simp only [put]
    cases made.replace path items.document.toUTF8.toList <;> rfl
  · rw [failed, FileTree.makeDirs, failed']
    rfl
  · rw [calm.granted] at refused
    cases refused

theorem Calm.readItems (calm : w.Calm path files) :
    w.readItems files path = Storage.readItems files path := by
  rcases w.readItems_cases files path with (same | ⟨-, missed⟩) | ⟨e, -, refused⟩
  · exact same
  · exact absurd (sees_of_granted (calm.granted _) path files) missed
  · rw [calm.granted] at refused
    cases refused

/-- **Where nothing is refused, the response is that of the storage.** -/
theorem Calm.attempt (calm : w.Calm path files) (r : Request) :
    (r.attempt w path files).1 = (Store.serve ⟨.file path, files⟩ r).1 := by
  rw [serve_eq_steps]
  unfold Request.attempt
  rw [calm.readItems]
  cases r.plan (Storage.readItems files path) with
  | answer response => rfl
  | replace items =>
    have replaced := calm.replaceItems items
    simp only [Plan.attempt, Plan.finish]
    generalize runOnTree (w.replaceItems path items) files = stepwise at replaced ⊢
    generalize Storage.replaceItems files path items = whole at replaced ⊢
    obtain ⟨e | ⟨⟩, left⟩ := stepwise
    · cases whole with
      | error e' =>
        cases replaced
        rfl
      | ok files' => cases replaced
    · cases whole with
      | error e' => cases replaced
      | ok files' => rfl

end Conditions

end AdminPanel.Storage
