import AdminPanel.Proofs.Panel.Stepping
import AdminPanel.Proofs.Storage.Sharing

/-!
# A panel over a file and a panel over memory

Two panels that differ in their storages alone, the one in a file and the other in memory, do the
same as long as the file stands for the items in memory. Steps that do not write see the storage
only through what can be read under its names (`step_withStore`); steps that write keep the
mirror (`Mirrored`); and so every run gives the same answers and the same calls
(`run_mirrored`).
-/

namespace AdminPanel.Storage

open Json (Members.insert Members.erase)

variable {path : FilePath} {files away : FileTree} {items : Items}

/-- An operation on a file beside the same operation in memory: stuck in the file system, which it
is not where a file can be replaced; refused on both sides; or done on both. -/
inductive Mirrored (path : FilePath) (files away : FileTree) (items : Items) :
    Except Fault Store → Except Fault Store → Prop
  | stuck (f : FileFault) (h : ¬ Replaceable files path) (r : Except Fault Store) :
      Mirrored path files away items (.error (.io f)) r
  | refused (e : Fault) : Mirrored path files away items (.error e) (.error e)
  | done (files' : FileTree) (items' : Items) (updated : Updated path files items files' items') :
      Mirrored path files away items (.ok ⟨.file path, files'⟩) (.ok ⟨.memory items', away⟩)

theorem mirrored_set (h : Contents files path items) (away : FileTree) (name value : String) :
    Mirrored path files away items (Store.set ⟨.file path, files⟩ name value)
      (Store.set ⟨.memory items, away⟩ name value) := by
  rcases Store.set_of_contents h name value with ⟨f, failed, stuck⟩ | ⟨files', done, updated⟩
  · rw [failed]
    exact .stuck f stuck _
  · rw [done]
    exact .done files' _ updated

theorem mirrored_remove (h : Contents files path items) (away : FileTree) (name : String) :
    Mirrored path files away items (Store.remove ⟨.file path, files⟩ name)
      (Store.remove ⟨.memory items, away⟩ name) := by
  rcases Store.remove_of_contents h name with ⟨f, failed, stuck⟩ | ⟨files', done, updated, -⟩
  · rw [failed]
    exact .stuck f stuck _
  · rw [done]
    exact .done files' _ updated

theorem mirrored_start (h : Contents files path items) (away : FileTree) (token : String) :
    Mirrored path files away items (Session.start ⟨.file path, files⟩ token)
      (Session.start ⟨.memory items, away⟩ token) := by
  unfold Session.start
  split
  · exact .refused _
  · exact mirrored_set h away _ token

end AdminPanel.Storage

namespace AdminPanel.Panel

open Rpc
open Storage (Store Items Contents Replaceable Updated Mirrored)
open Page (Clock)

variable {clock : Clock} {p : Panel} {s : Step}

/-- The same panel over another storage. -/
def withStore (p : Panel) (store : Store) : Panel :=
  { p with line := { p.line with store := store } }

@[simp] theorem withStore_line_store (p : Panel) (store : Store) :
    (p.withStore store).line.store = store := rfl

@[simp] theorem withStore_opened (p : Panel) (store : Store) :
    (p.withStore store).opened = p.opened := rfl

@[simp] theorem withStore_calls (p : Panel) (store : Store) :
    (p.withStore store).line.calls = p.line.calls := rfl

/-! ## Steps that do not write -/

/-- A step that may write the storage. -/
def Step.writes : Step → Bool
  | .setToken _ | .clearToken | .setItem .. | .removeItem _ | .files _ | .login .. | .logout => true
  | _ => false

/-- A storage from which the same is read under every name. -/
def SameReads (store store' : Store) : Prop := ∀ name, store.get name = store'.get name

namespace SameReads

variable {store store' : Store}

theorem token (h : SameReads store store') : Session.token store = Session.token store' := by
  rw [Session.token_eq, Session.token_eq, h]

theorem isOpen (h : SameReads store store') : Session.isOpen store = Session.isOpen store' := by
  rw [Session.isOpen, h.token, Session.isOpen]

theorem decide (h : SameReads store store') (target : Option Route) :
    Guard.decide store target = Guard.decide store' target := by
  rw [Guard.decide, h.isOpen, Guard.decide]

theorem go (h : SameReads store store') (path : String) :
    Navigation.go store path = Navigation.go store' path := by
  simp only [Navigation.go, h.decide]

end SameReads

/-- A planned action on the line does the same over a storage with the same token. -/
theorem answer_onLine_withStore {α ε : Type} {plan : List Endpoint}
    {act : ExceptT ε (StateM Line) α} (h : Asks plan act) (ofValue : α → Answer) (ofFault : ε → Fault) {store : Store}
    (token : Session.token store = Session.token p.line.store) :
    answer ofValue ofFault ((p.withStore store).onLine act) =
      ((answer ofValue ofFault (p.onLine act)).1,
        (answer ofValue ofFault (p.onLine act)).2.withStore store) := by
  have seen := h.sees p.line store token
  rw [onLine_eq, onLine_eq]
  show answer _ _ ((runOn act { p.line with store := store }).1,
    { p with line := (runOn act { p.line with store := store }).2 }) = _
  rw [seen]
  cases (runOn act p.line).1 <;> rfl

/-- A step that does not write does the same over a storage from which the same is read. -/
theorem step_withStore (clock : Clock) {store : Store} (h : SameReads store p.line.store)
    (quiet : s.writes = false) :
    (p.withStore store).step clock s
      = ((p.step clock s).1, (p.step clock s).2.withStore store) := by
  -- steps that write are excluded; the others see the store through what it reads, which is the same
  cases s with
  | setToken | clearToken | setItem | removeItem | files | login | logout => cases quiet
  | token =>
    simp only [step, withStore_line_store, h.token]
    cases Session.token p.line.store <;> rfl
  | isAuthenticated =>
    simp only [step, withStore_line_store, h.isOpen]
  | getItem name =>
    simp only [step, withStore_line_store, h name]
    cases p.line.store.get name <;> rfl
  | guard target =>
    simp only [step, withStore_line_store, h.decide]
  | navigate path =>
    simp only [step, navigate, withStore_line_store, h.go]
    cases Navigation.go p.line.store path <;> rfl
  | openPage path =>
    simp only [step, openPage, navigate, withStore_line_store, h.go]
    cases Navigation.go p.line.store path <;> rfl
  | load =>
    simp only [step, withStore_opened]
    cases p.opened with
    | none => rfl
    | some view => exact answer_onLine_withStore (Page.asks_view clock view) _ _ h.token
  | attach headers =>
    simp only [step, withStore_line_store, Rpc.Outgoing.attach, attach_congr h.token]
    cases Rpc.attach p.line.store headers <;> rfl
  | setStatus status reason =>
    rw [step, step]
    exact answer_onLine_withStore (Page.asks_setStatus status reason) _ _ h.token
  | announce title content =>
    rw [step, step]
    exact answer_onLine_withStore (Page.asks_announce title content) _ _ h.token
  | ban user duration reason =>
    rw [step, step]
    exact answer_onLine_withStore (Page.asks_ban user duration reason) _ _ h.token
  | unban user =>
    rw [step, step]
    exact answer_onLine_withStore (Page.asks_unban user) _ _ h.token
  | deleteAccount user =>
    rw [step, step]
    exact answer_onLine_withStore (Page.asks_deleteAccount user) _ _ h.token
  | configText =>
    rw [step, step]
    exact answer_onLine_withStore Page.asks_loadConfigText _ _ h.token
  | setConfig content =>
    rw [step, step]
    exact answer_onLine_withStore (Page.asks_setConfig content) _ _ h.token
  | fetchLogs settings =>
    rw [step, step]
    exact answer_onLine_withStore (Page.asks_loadLogs settings clock.now) _ _ h.token

theorem step_store_of_quiet (clock : Clock) (p : Panel) (quiet : s.writes = false) :
    (p.step clock s).2.line.store = p.line.store := by
  generalize hstore : (p.step clock s).2.line.store = store'
  have stores : s.Stores p.line.store store' := hstore ▸ (step_cases clock p s).stores
  cases stores with
  | same => rfl
  | setToken | clearToken | setItem | removeItem | files | login | logout => cases quiet

/-! ## Any step -/

/-- An answer that tells of a failure of the file system. -/
def IsIoFailure (a : Except Fault Answer) : Prop :=
  ∃ f, a = .error (.storage (.io f)) ∨ a = .error (.login (.storage (.io f)))

/-- A step of the panel's own: no other program writes to the files. -/
def Step.Own (s : Step) : Prop := ∀ change, s ≠ .files change

/-- What a step over a file and the same step over memory lead to: either the file system fails,
or the answers are the same, and so are the panels but for the storages, which mirror each
other. -/
inductive Paired (path : FilePath) (files away : FileTree) (items : Items)
    (r r' : Except Fault Answer × Panel) : Prop
  | stuck (failed : IsIoFailure r.1) (h : ¬ Replaceable files path)
  | same (files' : FileTree) (items' : Items) (store : r.2.line.store = ⟨.file path, files'⟩)
      (mirrored : r' = (r.1, r.2.withStore ⟨.memory items', away⟩))
      (updated : Updated path files items files' items')

variable {path : FilePath} {files away : FileTree} {items : Items}

theorem paired_onStore (store : p.line.store = ⟨.file path, files⟩)
    {r r' : Except Storage.Fault Store}
    (mirrored : Mirrored path files away items r r') :
    Paired path files away items (p.onStore r)
      ((p.withStore ⟨.memory items, away⟩).onStore r') := by
  cases mirrored with
  | stuck f stuck => exact .stuck ⟨f, .inl rfl⟩ stuck
  | refused e => exact .same files items store rfl .same
  | done files' items' updated => exact .same files' items' rfl rfl updated

/-- Logging in makes the same call on both sides; the token is then stored on both. -/
theorem paired_login (clock : Clock) (store : p.line.store = ⟨.file path, files⟩)
    (h : Contents files path items)
    (token : Session.token ⟨.memory items, away⟩ = Session.token p.line.store)
    (account password : String) :
    Paired path files away items (p.step clock (.login account password))
      ((p.withStore ⟨.memory items, away⟩).step clock (.login account password)) := by
  have asked := asks_unary Method.auth (Page.authRequest account password)
  have left := (asked.leaves p.line).store
  have seen := asked.sees p.line ⟨.memory items, away⟩ token
  simp only [step, onLine_eq, Page.runOn_login]
  split
  · exact .same files items store rfl .same
  · split
    · exact .same files items store rfl .same
    -- the call sees the storage through the token alone, so it is the same call on both sides
    · have memory : runOn (unary .auth (Page.authRequest account password))
          (p.withStore ⟨.memory items, away⟩).line = _ := seen
      rw [memory]
      rcases hr : runOn (unary .auth (Page.authRequest account password)) p.line with
        ⟨f | response, l'⟩
      · rw [hr] at left
        exact .same files items (left.trans store) rfl .same
      · rw [hr] at left
        have file : l'.store = ⟨.file path, files⟩ := left.trans store
        -- the token of a good answer is stored on either side
        have mirrored := Storage.mirrored_start h away response.token
        simp only [file]
        generalize Session.start ⟨.file path, files⟩ response.token = started at mirrored ⊢
        generalize Session.start ⟨.memory items, away⟩ response.token = started' at mirrored ⊢
        cases mirrored with
        | stuck f stuck => exact .stuck ⟨f, .inr rfl⟩ stuck
        | refused e => exact .same files items file rfl .same
        | done files' items' updated => exact .same files' items' rfl rfl updated

/-- **A step over a file is the step over memory.** -/
theorem paired_step (clock : Clock) (store : p.line.store = ⟨.file path, files⟩)
    (h : Contents files path items) (away : FileTree) (s : Step) (own : s.Own) :
    Paired path files away items (p.step clock s)
      ((p.withStore ⟨.memory items, away⟩).step clock s) := by
  -- what can be read in memory is what can be read from the file
  have reads : SameReads ⟨.memory items, away⟩ p.line.store := by
    intro name
    rw [store, Storage.Store.get_of_contents h]
    rfl
  cases quiet : s.writes with
  | false =>
    have kept := step_store_of_quiet clock p quiet
    exact .same files items (kept.trans store) (step_withStore clock reads quiet) .same
  | true =>
    cases s with
    | setToken t =>
      rw [step, store]
      exact paired_onStore store (Storage.mirrored_start h away t)
    | clearToken =>
      rw [step, store]
      exact paired_onStore store (Storage.mirrored_remove h away Session.tokenName)
    | setItem name value =>
      rw [step, store]
      exact paired_onStore store (Storage.mirrored_set h away name value)
    | removeItem name =>
      rw [step, store]
      exact paired_onStore store (Storage.mirrored_remove h away name)
    | files change => exact absurd rfl (own change)
    | login account password => exact paired_login clock store h reads.token account password
    | logout =>
      rw [step_logout, step_logout, store]
      exact paired_onStore store (Storage.mirrored_remove h away Session.tokenName)
    | _ => cases quiet

/-! ## Any run -/

/-- Over a file and over memory, a run gives the same answers and leaves the same panel but for the
storages, which mirror each other. -/
theorem run_mirrored (clock : Clock) (steps : List Step) (own : ∀ s ∈ steps, s.Own)
    (store : p.line.store = ⟨.file path, files⟩) (h : Contents files path items) (away : FileTree)
    (usable : Replaceable files path ∨ ∀ a ∈ (p.run clock steps).1, ¬ IsIoFailure a) :
    ∃ files' items', (p.run clock steps).2.line.store = ⟨.file path, files'⟩ ∧
      (p.withStore ⟨.memory items, away⟩).run clock steps
        = ((p.run clock steps).1, (p.run clock steps).2.withStore ⟨.memory items', away⟩) ∧
      Updated path files items files' items' := by
  -- induction on the steps
  induction steps generalizing p files items with
  | nil => exact ⟨files, items, store, rfl, .same⟩
  | cons s rest ih =>
    have first : p.run clock (s :: rest) =
        ((p.step clock s).1 :: ((p.step clock s).2.run clock rest).1,
          ((p.step clock s).2.run clock rest).2) := rfl
    rw [first] at usable ⊢
    cases paired_step clock store h away s (own s List.mem_cons_self) with
    | stuck failed stuck =>
      -- the file system fails only where no file can be replaced, and then the answer says so
      rcases usable with replaceable | noFailure
      · exact absurd replaceable stuck
      · exact absurd failed (noFailure _ List.mem_cons_self)
    | same files' items' store' mirrored updated =>
      have usable' : Replaceable files' path ∨
          ∀ a ∈ ((p.step clock s).2.run clock rest).1, ¬ IsIoFailure a :=
        usable.imp updated.replaceable fun noFailure a ha =>
          noFailure a (List.mem_cons_of_mem _ ha)
      obtain ⟨files'', items'', hstore, hrun, hupdated⟩ :=
        ih (fun s hs => own s (List.mem_cons_of_mem _ hs)) store' (updated.contents h) usable'
      refine ⟨files'', items'', hstore, ?_, updated.trans hupdated⟩
      show (((p.withStore ⟨.memory items, away⟩).step clock s).1 ::
          (((p.withStore ⟨.memory items, away⟩).step clock s).2.run clock rest).1,
        (((p.withStore ⟨.memory items, away⟩).step clock s).2.run clock rest).2) = _
      rw [mirrored, hrun]

/-- **A storage in a file refines a storage in memory.**

Let a path stand for items: nothing is there, or a blank text, or a document of strings. As long as
the file system does not fail, because a file can be replaced at the path or because no answer
says so, every sequence of operations through any storages on the path has the results that it has
in memory; the file stands for the items in memory after it, as a document once anything has been
written; and a removal of what is not there touches nothing. So a panel over the file and a panel
over memory give the same answers, and their peers record the same calls. -/
theorem file_refines_memory (h : Contents files path items) (away : FileTree) :
    (∀ (ι : Type) [DecidableEq ι] (places : ι → Storage.Place) (ops : List (ι × Storage.Request)),
      (∀ i, places i = .file path) →
      (Replaceable files path ∨
        ∀ r ∈ (Storage.Shared.serveAll ⟨places, files⟩ ops).1, ¬ Storage.IsIoFault r) →
      ∃ files' items',
        Store.serveAll ⟨.memory items, away⟩ (ops.map (·.2))
          = ((Storage.Shared.serveAll ⟨places, files⟩ ops).1, ⟨.memory items', away⟩) ∧
        (Storage.Shared.serveAll ⟨places, files⟩ ops).2 = ⟨places, files'⟩ ∧
        Contents files' path items' ∧
        (files' = files ∧ items' = items ∨ Storage.HoldsDocument files' path items') ∧
        ∀ i name, Json.Members.find? name items' = none →
          Storage.Shared.serve ⟨places, files'⟩ i (.remove name) = (.ok none, ⟨places, files'⟩)) ∧
    (∀ (clock : Clock) (p : Panel) (steps : List Step), p.line.store = ⟨.file path, files⟩ →
      (∀ s ∈ steps, s.Own) →
      (Replaceable files path ∨ ∀ a ∈ (p.run clock steps).1, ¬ IsIoFailure a) →
      ∃ files' items',
        (p.run clock steps).2.line.store = ⟨.file path, files'⟩ ∧ Contents files' path items' ∧
        (p.withStore ⟨.memory items, away⟩).run clock steps
          = ((p.run clock steps).1, (p.run clock steps).2.withStore ⟨.memory items', away⟩) ∧
        ((p.withStore ⟨.memory items, away⟩).run clock steps).2.line.calls
          = (p.run clock steps).2.line.calls) := by
  constructor
  · intro ι _ places ops hplaces usable
    obtain ⟨files', items', shared, memory, updated⟩ :=
      Storage.Shared.serveAll_mirrors ops ⟨places, files⟩ away hplaces h usable
    have after := updated.contents h
    refine ⟨files', items', memory, shared, after, ?_, ?_⟩
    · cases updated with
      | same => exact .inl ⟨rfl, rfl⟩
      | written _ _ document => exact .inr document
    · -- a removal of what is not there reads the file and leaves it
      intro i name missing
      apply Storage.Shared.serve_eq
      simp only [hplaces i, Store.serve, Store.remove_file, Storage.readItems_eq_ok_iff.mpr after,
        missing, Store.settle]
  · intro clock p steps store own usable
    obtain ⟨files', items', store', run, updated⟩ :=
      run_mirrored clock steps own store h away usable
    exact ⟨files', items', store', updated.contents h, run, by rw [run, withStore_calls]⟩

/-- Two storages on one missing file: what the one writes, quotes and line breaks included, the
other reads; and so does a panel that starts its session there. -/
theorem file_refines_memory_missing :
    (Storage.Shared.serveAll ⟨fun _ : Bool => .file ["s.json"], {}⟩
      [(true, .set "token" "a\"\n"), (false, .get "token"), (false, .remove "other")]).1
        = [.ok none, .ok (some "a\"\n"), .ok none] ∧
    (run default ⟨⟨⟨.file ["s.json"], {}⟩, ⟨"http://h", ⟨"http", "h", ""⟩⟩, .unreachable, []⟩,
      none, none⟩ [.setToken "t", .token]).1 = [.ok .done, .ok (.text (some "t"))] := by
  have missing : Contents {} ["s.json"] [] := .absent (by decide)
  have replaceable : Replaceable {} ["s.json"] := ⟨{}, rfl, fun bytes => ⟨_, rfl⟩⟩
  obtain ⟨shared, panels⟩ := file_refines_memory missing {}
  constructor
  · obtain ⟨files', items', memory, -⟩ := shared Bool (fun _ => .file ["s.json"])
      [(true, .set "token" "a\"\n"), (false, .get "token"), (false, .remove "other")]
      (fun _ => rfl) (.inl replaceable)
    exact (congrArg Prod.fst memory).symm
  · have own : ∀ s ∈ [Step.setToken "t", .token], s.Own := by
      intro s hs change
      rintro rfl
      simp at hs
    have same := panels default ⟨⟨⟨.file ["s.json"], {}⟩, ⟨"http://h", ⟨"http", "h", ""⟩⟩,
      .unreachable, []⟩, none, none⟩ [.setToken "t", .token] rfl own (.inl replaceable)
    obtain ⟨files', items', -, -, run, -⟩ := same
    exact (congrArg Prod.fst run).symm

end AdminPanel.Panel
