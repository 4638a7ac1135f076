import AdminPanel.Proofs.Storage.Sharing
import AdminPanel.Storage.Attempt

/-!
# The steps of an operation on a file

An operation on a storage file reads the file once. What it has read decides whether it is over, or
what it puts in the place of the file, and then that is the only other thing it does
(`serve_eq_steps`). Between the two anything may happen to the file: the second step does not look at
it again.

Of what an operation has read, that under other names is put back as it was, and that under its own
name does not matter if it replaces the file (`Request.plan_cases`). So as long as nobody touches
other names, an operation is as good as done at once when its last step is.
-/

namespace AdminPanel.Storage

open Json (Members.find? Members.insert Members.erase)

variable {files files' : FileTree} {path : FilePath} {items items' standing : Items} {r : Request}

/-- **An operation is its two steps**, if nothing happens in between. -/
theorem serve_eq_steps (files : FileTree) (path : FilePath) (r : Request) :
    Store.serve ⟨.file path, files⟩ r =
      (((r.plan (readItems files path)).finish files path).1,
        ⟨.file path, ((r.plan (readItems files path)).finish files path).2⟩) := by
  cases r with
  | get name =>
    rw [Store.serve, Store.get_file]
    cases readItems files path <;> rfl
  | set name value =>
    rw [Store.serve, Store.set_file]
    cases readItems files path with
    | error e => rfl
    | ok items =>
      simp only [Request.plan, Plan.finish]
      cases replaceItems files path (Members.insert name value items) <;> rfl
  | remove name =>
    rw [Store.serve, Store.remove_file]
    cases readItems files path with
    | error e => rfl
    | ok items =>
      simp only [Request.plan]
      cases Members.find? name items with
      | none => rfl
      | some value =>
        simp only [Plan.finish]
        cases replaceItems files path (Members.erase name items) <;> rfl

/-! ## What the items decide -/

def Request.name : Request → String
  | .get name | .set name _ | .remove name => name

/-- What an operation gives, done on items that stand. -/
def Request.answer : Request → Items → Option String
  | .get name, items => Members.find? name items
  | .set _ _, _ | .remove _, _ => none

/-- Items that are the same but for one name. -/
def Items.SameBut (name : String) (items items' : Items) : Prop :=
  ∀ other, other ≠ name → Members.find? other items = Members.find? other items'

/-- Items that cannot be told apart by reading them. -/
def Items.Same (items items' : Items) : Prop :=
  ∀ name, Members.find? name items = Members.find? name items'

namespace Items

theorem SameBut.refl (name : String) (items : Items) : items.SameBut name items := fun _ _ => rfl

theorem SameBut.symm {name : String} (h : items.SameBut name items') : items'.SameBut name items :=
  fun other ne => (h other ne).symm

theorem SameBut.trans {name : String} {items'' : Items} (h : items.SameBut name items')
    (h' : items'.SameBut name items'') : items.SameBut name items'' :=
  fun other ne => (h other ne).trans (h' other ne)

theorem Same.sameBut {name : String} (h : items.Same items') : items.SameBut name items' :=
  fun other _ => h other

/-- Items that are the same but for a name are the same if they are the same there. -/
theorem SameBut.same {name : String} (h : items.SameBut name items')
    (here : Members.find? name items = Members.find? name items') : items.Same items' := by
  intro other
  by_cases this : other = name
  · rw [this]
    exact here
  · exact h other this

end Items

theorem Request.apply_sameBut (r : Request) (items : Items) :
    (r.apply items).SameBut r.name items := by
  intro other ne
  cases r with
  | get name => rfl
  | set name value => exact Json.Members.find?_insert_of_ne ne value items
  | remove name => exact Json.Members.find?_erase_of_ne ne items

/-- What an operation leaves under its name, where a value may have stood. -/
def Request.leaves : Request → Option String → Option String
  | .get _, found => found
  | .set _ value, _ => some value
  | .remove _, _ => none

theorem Request.find?_apply (r : Request) (items : Items) :
    Members.find? r.name (r.apply items) = r.leaves (Members.find? r.name items) := by
  cases r with
  | get name => rfl
  | set name value => exact Json.Members.find?_insert_self name value items
  | remove name => exact Json.Members.find?_erase_self name items

theorem Request.apply_same (r : Request) (h : items.Same items') :
    (r.apply items).Same (r.apply items') := by
  have others : (r.apply items).SameBut r.name (r.apply items') :=
    ((r.apply_sameBut items).trans h.sameBut).trans (r.apply_sameBut items').symm
  refine others.same ?_
  rw [r.find?_apply, r.find?_apply, h r.name]

theorem Request.answer_same (r : Request) (h : items.Same items') : r.answer items = r.answer items' := by
  cases r with
  | get name => exact h name
  | set | remove => rfl

/-- **A plan, by what it is based on.** An operation that is over after reading gives what it gives on
these items and does nothing to them. One that replaces the file does not depend on what stood under
its name: it is as if it had found whatever stands there. -/
theorem Request.plan_cases (r : Request) (items : Items) :
    (r.plan (.ok items) = .answer (.ok (r.answer items)) ∧ r.apply items = items) ∨
      r.plan (.ok items) = .replace (r.apply items) ∧
        ∀ standing, Members.find? r.name (r.apply items) = Members.find? r.name (r.apply standing) ∧
          r.answer standing = none := by
  cases r with
  | get name => exact .inl ⟨rfl, rfl⟩
  | set name value =>
    refine .inr ⟨rfl, fun standing => ⟨?_, rfl⟩⟩
    rw [Request.find?_apply, Request.find?_apply]
    rfl
  | remove name =>
    -- a removal of what is not there is answered at once and writes nothing
    cases found : Members.find? name items with
    | none =>
      refine .inl ⟨?_, Json.Members.erase_of_find?_eq_none found⟩
      rw [Request.plan, found]
      rfl
    | some value =>
      refine .inr ⟨?_, fun standing => ⟨?_, rfl⟩⟩
      · rw [Request.plan, found]
        rfl
      · rw [Request.find?_apply, Request.find?_apply]
        rfl

theorem Request.of_plan_answer {r : Request} {response : Response}
    (h : r.plan (.ok items) = .answer response) :
    response = .ok (r.answer items) ∧ r.apply items = items := by
  rcases r.plan_cases items with ⟨answers, unchanged⟩ | ⟨replaces, -⟩
  · rw [h] at answers
    cases answers
    exact ⟨rfl, unchanged⟩
  · rw [h] at replaces
    cases replaces

theorem Request.of_plan_replace {r : Request} {doc : Items}
    (h : r.plan (.ok items) = .replace doc) :
    doc = r.apply items ∧ ∀ standing,
      Members.find? r.name doc = Members.find? r.name (r.apply standing) ∧
        r.answer standing = none := by
  rcases r.plan_cases items with ⟨answers, -⟩ | ⟨replaces, independent⟩
  · rw [h] at answers
    cases answers
  · rw [h] at replaces
    cases replaces
    exact ⟨rfl, independent⟩

theorem Request.plan_answer_same (r : Request) {response : Response} (h : items.Same items')
    (answers : r.plan (.ok items) = .answer response) : r.plan (.ok items') = .answer response := by
  cases r with
  | get name =>
    rw [← answers, Request.plan, Request.plan, h name]
  | set name value => cases answers
  | remove name =>
    rw [Request.plan] at answers ⊢
    rw [← h name]
    cases found : Members.find? name items with
    | none =>
      rw [found] at answers
      exact answers
    | some value =>
      rw [found] at answers
      cases answers

theorem Request.sorted_apply (r : Request) (sorted : Json.Members.Sorted items) :
    Json.Members.Sorted (r.apply items) := by
  cases r with
  | get name => exact sorted
  | set name value => exact Json.Members.sorted_insert name value sorted
  | remove name => exact Json.Members.sorted_erase name sorted

/-! ## Operations without a break -/

theorem serve_memory (items : Items) (away : FileTree) (r : Request) :
    Store.serve ⟨.memory items, away⟩ r = (.ok (r.answer items), ⟨.memory (r.apply items), away⟩) := by
  cases r <;> rfl

/-- An operation on a file gives what it gives on the items that the file stands for, if a file can be
replaced there or it replaces none. -/
theorem serve_of_contents (h : Contents files path items) (r : Request)
    (usable : Replaceable files path ∨ r.plan (.ok items) = .answer (.ok (r.answer items))) :
    ∃ files', Store.serve ⟨.file path, files⟩ r = (.ok (r.answer items), ⟨.file path, files'⟩) ∧
      Updated path files items files' (r.apply items) := by
  rcases usable with replaceable | answers
  · rcases serve_mirrors h r with ⟨-, stuck⟩ | ⟨response, files', served, memory, updated⟩
    · exact absurd replaceable stuck
    · have same := memory files
      rw [serve_memory] at same
      obtain ⟨response_eq, -⟩ := Prod.mk.inj same
      rw [← response_eq] at served
      exact ⟨files', served, updated⟩
  · obtain ⟨-, unchanged⟩ := Request.of_plan_answer answers
    refine ⟨files, ?_, ?_⟩
    · rw [serve_eq_steps, readItems_eq_ok_iff.mpr h, answers]
      rfl
    · rw [unchanged]
      exact .same

end AdminPanel.Storage
