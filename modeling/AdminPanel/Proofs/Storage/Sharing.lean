import AdminPanel.Proofs.Storage.Laws
import Mathlib.Logic.Function.Basic

/-!
# Storages that share a file

Any number of storages on one path, each used when it likes, behave as one storage in memory. What
carries the proof is that none of them keeps anything: between two operations all there is, is the
file, and the file always stands for the items that the storage in memory has.

## The architecture

* **`Shared`** — several storages and the files around them; `Shared.serve` does an operation through one
  of them, as `Store.serve` does it on one alone.
* **`serve_mirrors`** — one operation either fails as the file system does, or gives the same
  result in the file and in memory, and the file then stands for the items in memory.
* **`Shared.serveAll_mirrors`** — the same for every sequence of operations, by induction.
-/

namespace AdminPanel.Storage

open Json (Members.find? Members.insert Members.erase)

/-- A failure of the file system. -/
def IsIoFault (r : Response) : Prop := ∃ f, r = .error (.io f)

/-- Several storages and the files around all of them. -/
structure Shared (ι : Type) where
  places : ι → Place
  files : FileTree

namespace Shared

variable {ι : Type} [DecidableEq ι]

/-- Does an operation through one of the storages. -/
def serve (sh : Shared ι) (i : ι) (r : Request) : Response × Shared ι :=
  let (response, s) := Store.serve ⟨sh.places i, sh.files⟩ r
  (response, ⟨Function.update sh.places i s.place, s.files⟩)

/-- Does operations one after the other, each through its storage. -/
def serveAll (sh : Shared ι) : List (ι × Request) → List Response × Shared ι
  | [] => ([], sh)
  | (i, r) :: rest =>
    let (response, sh) := sh.serve i r
    let (responses, sh) := sh.serveAll rest
    (response :: responses, sh)

end Shared

/-! ## One operation -/

variable {path : FilePath} {files : FileTree} {items : Items}

/-- What an operation does to items. -/
def Request.apply : Request → Items → Items
  | .get _, items => items
  | .set name value, items => Members.insert name value items
  | .remove name, items => Members.erase name items

/-- **One operation on a file is the operation in memory**, unless the file system fails, which it
does not where a file can be replaced. -/
theorem serve_mirrors (h : Contents files path items) (r : Request) :
    (IsIoFault (Store.serve ⟨.file path, files⟩ r).1 ∧ ¬ Replaceable files path) ∨
      ∃ response files', Store.serve ⟨.file path, files⟩ r = (.ok response, ⟨.file path, files'⟩) ∧
        (∀ away, Store.serve ⟨.memory items, away⟩ r
          = (.ok response, ⟨.memory (r.apply items), away⟩)) ∧
        Updated path files items files' (r.apply items) := by
  cases r with
  | get name =>
    refine .inr ⟨Members.find? name items, files, ?_, fun _ => rfl, .same⟩
    rw [Store.serve, Store.get_of_contents h]
  | set name value =>
    rcases Store.set_of_contents h name value with ⟨f, failed, stuck⟩ | ⟨files', done, updated⟩
    · refine .inl ⟨⟨f, ?_⟩, stuck⟩
      rw [Store.serve, failed]
      rfl
    · refine .inr ⟨none, files', ?_, fun _ => rfl, updated⟩
      rw [Store.serve, done]
      rfl
  | remove name =>
    rcases Store.remove_of_contents h name with ⟨f, failed, stuck⟩ | ⟨files', done, updated, -⟩
    · refine .inl ⟨⟨f, ?_⟩, stuck⟩
      rw [Store.serve, failed]
      rfl
    · refine .inr ⟨none, files', ?_, fun _ => rfl, updated⟩
      rw [Store.serve, done]
      rfl

/-! ## Any number of operations -/

section Sharing

variable {ι : Type} [DecidableEq ι]

theorem Shared.serve_eq {sh : Shared ι} {i : ι} {r : Request} {response : Response}
    {files' : FileTree}
    (h : Store.serve ⟨sh.places i, sh.files⟩ r = (response, ⟨sh.places i, files'⟩)) :
    sh.serve i r = (response, ⟨sh.places, files'⟩) := by
  unfold Shared.serve
  rw [h]
  simp

/-- Operations through any of several storages on one path are the operations in memory, as long as
the file system does not fail. -/
theorem Shared.serveAll_mirrors (ops : List (ι × Request)) (sh : Shared ι) (away : FileTree)
    (places : ∀ i, sh.places i = .file path) (h : Contents sh.files path items)
    (usable : Replaceable sh.files path ∨ ∀ r ∈ (sh.serveAll ops).1, ¬ IsIoFault r) :
    ∃ files' items', (sh.serveAll ops).2 = ⟨sh.places, files'⟩ ∧
      Store.serveAll ⟨.memory items, away⟩ (ops.map (·.2))
        = ((sh.serveAll ops).1, ⟨.memory items', away⟩) ∧
      Updated path sh.files items files' items' := by
  -- induction on the operations; the mirror carries it
  induction ops generalizing sh items with
  | nil => exact ⟨sh.files, items, rfl, rfl, .same⟩
  | cons op rest ih =>
    obtain ⟨i, r⟩ := op
    rcases serve_mirrors h r with ⟨failed, stuck⟩ | ⟨response, files', served, memory, updated⟩
    -- the file system fails only where no file can be replaced, and then the response says so
    · rcases usable with replaceable | noFault
      · exact absurd replaceable stuck
      · refine absurd ?_ (noFault _ List.mem_cons_self)
        show IsIoFault (Store.serve ⟨sh.places i, sh.files⟩ r).1
        rw [places i]
        exact failed
    -- otherwise the file stands for the items in memory again, and the others go on from there
    · rw [← places i] at served
      have step := Shared.serve_eq served
      have later : (sh.serveAll ((i, r) :: rest)) =
          (.ok response :: (Shared.serveAll ⟨sh.places, files'⟩ rest).1,
            (Shared.serveAll ⟨sh.places, files'⟩ rest).2) := by
        rw [Shared.serveAll, step]
      rw [later] at usable ⊢
      obtain ⟨files'', items'', hshared, hmemory, hupdated⟩ :=
        ih ⟨sh.places, files'⟩ places (updated.contents h)
          (usable.imp updated.replaceable fun noFault r hr => noFault r (List.mem_cons_of_mem _ hr))
      refine ⟨files'', items'', hshared, ?_, updated.trans hupdated⟩
      rw [List.map_cons, Store.serveAll, memory]
      simp only [hmemory]

end Sharing

end AdminPanel.Storage
