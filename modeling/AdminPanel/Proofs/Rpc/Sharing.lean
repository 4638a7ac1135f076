import Mathlib.Data.List.Induction
import Mathlib.Logic.Function.Basic
import Mathlib.Data.Fin.VecNotation
import AdminPanel.Rpc.Registry
import AdminPanel.Proofs.Rpc.Dialing
import AdminPanel.Proofs.Session.History

/-!
# Callers that share a registry at the same time

A process has one place for its registry. Whoever asks for it looks there first; who finds nothing
builds a registry from the own address and session, and then puts it there, unless another has been
faster, and takes what is there. Between these steps the others go on as they like, so that several may
find the place empty and build a registry each; all but one of these are dropped.

## The architecture

* **`Process.turn`** — a caller takes its next step, or someone does an operation on a session; a run
  takes turns in any order.
* **`Process.shared_eq`** — the steps of a caller without others between them are `Cell.shared`.
* **`Process.called`** — what a step of a caller can do; every invariant starts from it.
* **`Sound`** — the invariant: what is in the place was built by one caller, and whoever is through
  with asking has what is in the place or failed for its own address.
* **`one_registry`** — all of them have the same registry, whatever the order.
-/

namespace AdminPanel.Rpc

open Storage (Store)
open Session (Operation)

/-! ## Steps of several callers -/

/-- Who asks for the shared registry: an address, and which of the sessions of the process. -/
structure Caller where
  address : String
  session : Nat

/-- A registry that has been built: which one it is, its transport, and whose session it holds. -/
structure Instance where
  number : Nat
  transport : Transport
  session : Nat
  deriving DecidableEq

/-- An instance with its session as it is at some time. -/
def Instance.registry (stores : Nat → Store) (a : Instance) : Registry :=
  ⟨a.transport, stores a.session⟩

/-- How far a caller is: it has not looked yet, it found nothing, it has built an instance, it has been
given one, or it failed. -/
inductive Stage where
  | called
  | missed
  | built (a : Instance)
  | returned (a : Instance)
  | failed (e : Address.Fault)
  deriving DecidableEq

/-- What a caller is given in the end. -/
def Stage.result? (stores : Nat → Store) : Stage → Option (Except Address.Fault Registry)
  | .returned a => some (.ok (a.registry stores))
  | .failed e => some (.error e)
  | .called | .missed | .built _ => none

/-- A process: the place of the shared registry, how far its callers are, who built the instances that
there are, in their order, and the storages of the sessions. -/
structure Process (ι : Type) where
  cell : Option Instance
  stages : ι → Stage
  builders : List ι
  stores : Nat → Store

/-- What happens in a process: a caller goes on, or an operation is done on a session. -/
inductive Turn (ι : Type) where
  | call (i : ι)
  | serve (session : Nat) (op : Operation)

namespace Process

variable {ι : Type} [DecidableEq ι] (callers : ι → Caller) (hasRoots : Bool)

def start (stores : Nat → Store) : Process ι := ⟨none, fun _ => .called, [], stores⟩

/-- A caller comes to another stage. -/
def enter (pr : Process ι) (i : ι) (stage : Stage) : Process ι :=
  { pr with stages := Function.update pr.stages i stage }

/-- The next step of a caller. -/
def call (pr : Process ι) (i : ι) : Process ι :=
  match pr.stages i with
  | .called =>
    match pr.cell with
    | some a => pr.enter i (.returned a)
    | none => pr.enter i .missed
  | .missed =>
    let session := (callers i).session
    match Registry.new (callers i).address (pr.stores session) hasRoots with
    | .error e => pr.enter i (.failed e)
    | .ok r =>
      { pr.enter i (.built ⟨pr.builders.length, r.transport, session⟩) with
        builders := pr.builders ++ [i] }
  | .built a =>
    let (present, cell) := Cell.install pr.cell a
    { pr.enter i (.returned present) with cell }
  | .returned _ | .failed _ => pr

def turn (pr : Process ι) : Turn ι → Process ι
  | .call i => pr.call callers hasRoots i
  | .serve n op => { pr with stores := Function.update pr.stores n (op.serve (pr.stores n)).2 }

/-- Turns in some order. -/
def run (pr : Process ι) (schedule : List (Turn ι)) : Process ι :=
  schedule.foldl (turn callers hasRoots) pr

/-- What a step of a caller can do. -/
inductive Called (pr : Process ι) (i : ι) : Process ι → Prop
  | found (a : Instance) (stage : pr.stages i = .called) (cell : pr.cell = some a) :
      Called pr i (pr.enter i (.returned a))
  | missed (stage : pr.stages i = .called) (cell : pr.cell = none) :
      Called pr i (pr.enter i .missed)
  | refused (e : Address.Fault) (stage : pr.stages i = .missed)
      (refused : Transport.new (callers i).address hasRoots = .error e) :
      Called pr i (pr.enter i (.failed e))
  | built (t : Transport) (stage : pr.stages i = .missed)
      (built : Transport.new (callers i).address hasRoots = .ok t) :
      Called pr i
        { pr.enter i (.built ⟨pr.builders.length, t, (callers i).session⟩) with
          builders := pr.builders ++ [i] }
  | installed (a : Instance) (stage : pr.stages i = .built a) (cell : pr.cell = none) :
      Called pr i { pr.enter i (.returned a) with cell := some a }
  | beaten (a present : Instance) (stage : pr.stages i = .built a) (cell : pr.cell = some present) :
      Called pr i { pr.enter i (.returned present) with cell := some present }
  | done (stage : (∃ a, pr.stages i = .returned a) ∨ ∃ e, pr.stages i = .failed e) : Called pr i pr

theorem called (pr : Process ι) (i : ι) : Called callers hasRoots pr i (pr.call callers hasRoots i) := by
  unfold call
  cases stage : pr.stages i with
  | called =>
    cases cell : pr.cell with
    | some a => exact .found a stage cell
    | none => exact .missed stage cell
  | missed =>
    simp only [Registry.new]
    cases new : Transport.new (callers i).address hasRoots with
    | error e => exact .refused e stage new
    | ok t => exact .built t stage new
  | built a =>
    cases cell : pr.cell with
    | none => exact .installed a stage cell
    | some present => exact .beaten a present stage cell
  | returned a => exact .done (.inl ⟨a, stage⟩)
  | failed e => exact .done (.inr ⟨e, stage⟩)

variable {callers hasRoots}
variable {pr : Process ι} {i j : ι} {a : Instance}

@[simp] theorem enter_stages_self (pr : Process ι) (i : ι) (stage : Stage) :
    (pr.enter i stage).stages i = stage := by
  simp [enter]

theorem enter_stages_of_ne (pr : Process ι) (stage : Stage) (ne : j ≠ i) :
    (pr.enter i stage).stages j = pr.stages j := by
  simp [enter, ne]

/-- The steps of a caller without others between them give the shared registry as it is given in one
piece, and leave it in its place. -/
theorem shared_eq (called : pr.stages i = .called) :
    let pr' := pr.run callers hasRoots [.call i, .call i, .call i]
    let shared := Cell.shared (pr.cell.map (Instance.registry pr.stores)) (callers i).address
      (pr.stores (callers i).session) hasRoots
    (pr'.stages i).result? pr'.stores = some shared.1 ∧
      pr'.cell.map (Instance.registry pr'.stores) = shared.2 := by
  obtain ⟨cell, stages, builders, stores⟩ := pr
  simp only at called
  cases cell with
  | some a => simp [run, turn, call, called, enter, Cell.shared, Stage.result?]
  | none =>
    cases new : Transport.new (callers i).address hasRoots with
    | error e => simp [run, turn, call, called, enter, Cell.shared, Registry.new, new, Stage.result?]
    | ok t =>
      simp [run, turn, call, called, enter, Cell.shared, Registry.new, new, Stage.result?,
        Cell.install, Instance.registry]

/-! ## The invariant -/

section

omit [DecidableEq ι]

/-- An instance has been built by a caller, from the address and the session of this caller. -/
structure BuiltBy (callers : ι → Caller) (hasRoots : Bool) (builders : List ι) (a : Instance) (i : ι) :
    Prop where
  listed : builders[a.number]? = some i
  transport : Transport.new (callers i).address hasRoots = .ok a.transport
  session : a.session = (callers i).session

theorem BuiltBy.mono {builders builders' : List ι} (more : builders <+: builders')
    (h : BuiltBy callers hasRoots builders a i) : BuiltBy callers hasRoots builders' a i := by
  obtain ⟨rest, rfl⟩ := more
  refine ⟨?_, h.transport, h.session⟩
  rw [List.getElem?_append_left (List.getElem?_eq_some_iff.mp h.listed).1]
  exact h.listed

/-- What holds of a caller at a stage. -/
def Fits (callers : ι → Caller) (hasRoots : Bool) (pr : Process ι) (i : ι) : Stage → Prop
  | .called | .missed => i ∉ pr.builders
  | .built a => BuiltBy callers hasRoots pr.builders a i
  | .returned a => pr.cell = some a
  | .failed e => Transport.new (callers i).address hasRoots = .error e ∧ i ∉ pr.builders

/-- What holds after any turns. -/
structure Sound (callers : ι → Caller) (hasRoots : Bool) (pr : Process ι) : Prop where
  cell : ∀ a, pr.cell = some a → ∃ i, BuiltBy callers hasRoots pr.builders a i
  fits : ∀ i, Fits callers hasRoots pr i (pr.stages i)

/-- What holds of a caller still holds when others have built more, and the place is filled. -/
theorem Fits.mono {pr' : Process ι} {stage : Stage} (h : Fits callers hasRoots pr j stage)
    (builders : pr'.builders = pr.builders ∨ pr'.builders = pr.builders ++ [i] ∧ j ≠ i)
    (cell : ∀ a, pr.cell = some a → pr'.cell = some a) : Fits callers hasRoots pr' j stage := by
  have more : pr.builders <+: pr'.builders := by
    rcases builders with same | ⟨more, -⟩
    · exact same ▸ List.prefix_rfl
    · exact more ▸ List.prefix_append ..
  have absent (out : j ∉ pr.builders) : j ∉ pr'.builders := by
    rcases builders with same | ⟨more, ne⟩
    · exact same ▸ out
    · simp [more, out, ne]
  cases stage with
  | called | missed => exact absent h
  | built a => exact BuiltBy.mono more h
  | returned a => exact cell a h
  | failed e => exact ⟨h.1, absent h.2⟩

end

/-- A caller comes to a stage, and all that holds of the others still does. -/
theorem Sound.enter {pr' : Process ι} {stage : Stage} (sound : Sound callers hasRoots pr)
    (stages : pr'.stages = (pr.enter i stage).stages)
    (builders : pr'.builders = pr.builders ∨ pr'.builders = pr.builders ++ [i])
    (kept : ∀ a, pr.cell = some a → pr'.cell = some a)
    (cell : ∀ a, pr'.cell = some a → ∃ i, BuiltBy callers hasRoots pr'.builders a i)
    (own : Fits callers hasRoots pr' i stage) : Sound callers hasRoots pr' := by
  refine ⟨cell, fun j => ?_⟩
  rw [stages]
  by_cases same : j = i
  · rw [same, enter_stages_self]
    exact own
  · rw [enter_stages_of_ne pr stage same]
    exact (sound.fits j).mono (builders.imp_right fun more => ⟨more, same⟩) kept

omit [DecidableEq ι] in
theorem sound_start (stores : Nat → Store) : Sound callers hasRoots (start stores : Process ι) :=
  ⟨nofun, fun _ => List.not_mem_nil⟩

theorem sound_call (sound : Sound callers hasRoots pr) (i : ι) :
    Sound callers hasRoots (pr.call callers hasRoots i) := by
  have step := called callers hasRoots pr i
  have own := sound.fits i
  generalize pr.call callers hasRoots i = pr' at step
  -- only two of the moves touch what is shared: one appends a builder, one fills the cell
  cases step with
  | found a stage cell => exact sound.enter rfl (.inl rfl) (fun _ => id) sound.cell cell
  | missed stage cell =>
    rw [stage] at own
    exact sound.enter rfl (.inl rfl) (fun _ => id) sound.cell own
  | refused e stage refused =>
    rw [stage] at own
    exact sound.enter rfl (.inl rfl) (fun _ => id) sound.cell ⟨refused, own⟩
  | built t stage built =>
    refine sound.enter rfl (.inr rfl) (fun _ => id) (fun a cell => ?_) ⟨by simp, built, rfl⟩
    obtain ⟨k, by_k⟩ := sound.cell a cell
    exact ⟨k, by_k.mono (List.prefix_append ..)⟩
  | installed a stage cell =>
    rw [stage] at own
    refine sound.enter rfl (.inl rfl) (fun b => ?_) (fun b same => ?_) rfl
    · rw [cell]
      exact nofun
    · obtain rfl : a = b := Option.some.inj same
      exact ⟨i, own⟩
  -- the cell was filled in between: what this caller has built is dropped, and it takes the one there
  | beaten a present stage cell =>
    refine sound.enter rfl (.inl rfl) (fun b => ?_) (fun b same => ?_) rfl
    · rw [cell]
      exact id
    · exact sound.cell b (cell.trans same)
  | done => exact sound

theorem sound_turn (sound : Sound callers hasRoots pr) (t : Turn ι) :
    Sound callers hasRoots (pr.turn callers hasRoots t) := by
  cases t with
  | call i => exact sound_call sound i
  | serve n op => exact ⟨sound.cell, fun j => (sound.fits j).mono (i := j) (.inl rfl) fun _ => id⟩

theorem sound_run (sound : Sound callers hasRoots pr) (schedule : List (Turn ι)) :
    Sound callers hasRoots (pr.run callers hasRoots schedule) := by
  induction schedule generalizing pr with
  | nil => exact sound
  | cons t rest ih => exact ih (sound_turn sound t)

/-! ## What turns leave -/

theorem run_append (pr : Process ι) (before after : List (Turn ι)) :
    pr.run callers hasRoots (before ++ after) =
      (pr.run callers hasRoots before).run callers hasRoots after :=
  List.foldl_append

/-- What is in the place stays there. -/
theorem cell_turn (cell : pr.cell = some a) (t : Turn ι) :
    (pr.turn callers hasRoots t).cell = some a := by
  cases t with
  | serve n op => exact cell
  | call i =>
    have step := called callers hasRoots pr i
    rw [turn]
    generalize pr.call callers hasRoots i = pr' at step
    cases step with
    | found | missed | refused | built | done => exact cell
    | installed b stage empty => exact absurd (empty.symm.trans cell) nofun
    | beaten b present stage same => exact same.symm.trans cell

theorem cell_run (cell : pr.cell = some a) (schedule : List (Turn ι)) :
    (pr.run callers hasRoots schedule).cell = some a := by
  induction schedule generalizing pr with
  | nil => exact cell
  | cons t rest ih => exact ih (cell_turn cell t)

theorem builders_turn (pr : Process ι) (t : Turn ι) :
    pr.builders <+: (pr.turn callers hasRoots t).builders := by
  cases t with
  | serve n op => exact List.prefix_rfl
  | call i =>
    have step := called callers hasRoots pr i
    rw [turn]
    generalize pr.call callers hasRoots i = pr' at step
    cases step with
    | built => exact List.prefix_append ..
    | found | missed | refused | installed | beaten | done => exact List.prefix_rfl

theorem builders_run (pr : Process ι) (schedule : List (Turn ι)) :
    pr.builders <+: (pr.run callers hasRoots schedule).builders := by
  induction schedule generalizing pr with
  | nil => exact List.prefix_rfl
  | cons t rest ih => exact (builders_turn pr t).trans (ih _)

/-- A caller is where it was after the turns of others. -/
theorem stages_turn_of_ne {t : Turn ι} (other : t ≠ .call i) :
    (pr.turn callers hasRoots t).stages i = pr.stages i := by
  cases t with
  | serve n op => rfl
  | call j =>
    have ne : i ≠ j := fun same => other (same ▸ rfl)
    have step := called callers hasRoots pr j
    rw [turn]
    generalize pr.call callers hasRoots j = pr' at step
    cases step with
    | found | missed | refused | built | installed | beaten => exact enter_stages_of_ne pr _ ne
    | done => rfl

/-- Only who has built an instance puts one in the place. -/
theorem cell_call_of_not_built (idle : ∀ a, pr.stages i ≠ .built a) :
    (pr.call callers hasRoots i).cell = pr.cell := by
  have step := called callers hasRoots pr i
  generalize pr.call callers hasRoots i = pr' at step
  cases step with
  | found | missed | refused | built | done => rfl
  | installed a stage | beaten a present stage => exact absurd stage (idle a)

/-! ## Calls that fail -/

/-- A stage of who has looked, and has not been given anything so far. -/
def LeftEmpty : Stage → Prop
  | .missed | .built _ | .failed _ => True
  | .called | .returned _ => False

/-- Who has looked and has not been given anything so far has found the place empty. The induction goes
along the turns from their end; the look is the turn before which the caller had not looked. -/
theorem exists_look {stores : Nat → Store} (schedule : List (Turn ι))
    (left : LeftEmpty (((start stores).run callers hasRoots schedule).stages i)) :
    ∃ before after, schedule = before ++ .call i :: after ∧
      ((start stores).run callers hasRoots before).stages i = .called ∧
      ((start stores).run callers hasRoots before).cell = none := by
  -- from the end of the schedule: the turn at which the caller has looked is the last one, or earlier
  induction schedule using List.reverseRecOn with
  | nil => exact left.elim
  | append_singleton schedule t ih =>
    have earlier (left : LeftEmpty (((start stores).run callers hasRoots schedule).stages i)) :
        ∃ before after, schedule ++ [t] = before ++ .call i :: after ∧
          ((start stores).run callers hasRoots before).stages i = .called ∧
          ((start stores).run callers hasRoots before).cell = none := by
      obtain ⟨before, after, rfl, found⟩ := ih left
      exact ⟨before, after ++ [t], by simp, found⟩
    rw [run_append] at left
    generalize hpr : (start stores).run callers hasRoots schedule = pr at left earlier
    by_cases own : t = .call i
    · subst own
      have step := called callers hasRoots pr i
      have moved : LeftEmpty ((pr.call callers hasRoots i).stages i) := left
      generalize pr.call callers hasRoots i = pr' at step moved
      -- of the moves of this caller, only the look at the empty cell leads here from before it
      cases step with
      | missed stage cell => exact ⟨schedule, [], rfl, by rw [hpr]; exact ⟨stage, cell⟩⟩
      | refused e stage => exact earlier (stage ▸ trivial)
      | built t stage => exact earlier (stage ▸ trivial)
      | done => exact earlier moved
      | found | installed | beaten => simp [LeftEmpty] at moved
    · have same : (pr.turn callers hasRoots t).stages i = pr.stages i := stages_turn_of_ne own
      exact earlier (same ▸ left)

/-- The turns of a caller that never builds an instance leave the place as it was. -/
theorem cell_call_of_not_mem {stores : Nat → Store} {before after : List (Turn ι)}
    (out : i ∉ ((start stores).run callers hasRoots (before ++ .call i :: after)).builders) :
    ((start stores).run callers hasRoots (before ++ [.call i])).cell =
      ((start stores).run callers hasRoots before).cell := by
  rw [run_append] at out ⊢
  have sound : Sound callers hasRoots ((start stores).run callers hasRoots before) :=
    sound_run (sound_start stores) before
  generalize (start stores).run callers hasRoots before = pr at out sound ⊢
  refine cell_call_of_not_built fun a stage => out ?_
  have built := sound.fits i
  rw [stage] at built
  exact (builders_run pr _).subset (List.mem_of_getElem? built.listed)

/-! ## Calls that come later -/

theorem stages_call_of_called (cell : pr.cell = some a) (stage : pr.stages i = .called) :
    (pr.call callers hasRoots i).stages i = .returned a := by
  rw [call, stage, cell]
  exact enter_stages_self ..

theorem stages_run_of_returned (stage : pr.stages i = .returned a) (schedule : List (Turn ι)) :
    (pr.run callers hasRoots schedule).stages i = .returned a := by
  induction schedule generalizing pr with
  | nil => exact stage
  | cons t rest ih =>
    refine ih ?_
    by_cases own : t = .call i
    · rw [own, turn, call, stage]
      exact stage
    · exact (stages_turn_of_ne own).trans stage

/-- Who looks when the place is filled is given what is there, with the first turn. -/
theorem stages_run_of_called (cell : pr.cell = some a) (stage : pr.stages i = .called)
    (schedule : List (Turn ι)) :
    (.call i ∉ schedule → (pr.run callers hasRoots schedule).stages i = .called) ∧
      (.call i ∈ schedule → (pr.run callers hasRoots schedule).stages i = .returned a) := by
  induction schedule generalizing pr with
  | nil => exact ⟨fun _ => stage, nofun⟩
  | cons t rest ih =>
    by_cases own : t = .call i
    · subst own
      exact ⟨fun out => absurd List.mem_cons_self out,
        fun _ => stages_run_of_returned (stages_call_of_called cell stage) rest⟩
    · obtain ⟨waits, given⟩ := ih (cell_turn cell t) ((stages_turn_of_ne own).trans stage)
      exact ⟨fun out => waits fun within => out (List.mem_cons_of_mem t within),
        fun within => given ((List.mem_cons.mp within).resolve_left (Ne.symm own))⟩

/-! ## Sessions -/

/-- A session is as it was after turns that do not write it. -/
theorem stores_run_of_unwritten {n : Nat} {schedule : List (Turn ι)}
    (unwritten : ∀ op, .serve n op ∈ schedule → op = .token) :
    (pr.run callers hasRoots schedule).stores n = pr.stores n := by
  induction schedule generalizing pr with
  | nil => rfl
  | cons t rest ih =>
    refine (ih fun op within => unwritten op (List.mem_cons_of_mem t within)).trans ?_
    cases t with
    | call i =>
      have step := called callers hasRoots pr i
      rw [turn]
      generalize pr.call callers hasRoots i = pr' at step
      cases step <;> rfl
    | serve m op =>
      by_cases same : n = m
      · subst same
        rw [unwritten op List.mem_cons_self]
        exact Function.update_self ..
      · exact Function.update_of_ne same ..

/-- A token that is stored in memory is the token. -/
theorem token_of_serve {s : Store} {items : Storage.Items} (memory : s.place = .memory items)
    {t : String} (full : t ≠ "") :
    Session.token ((Operation.start t full).serve s).2 = .ok (some t) := by
  obtain ⟨place, files⟩ := s
  obtain rfl : place = .memory items := memory
  have isFull : t.isEmpty = false := by simpa using full
  refine Session.token_eq_some_iff.mpr ⟨?_, full⟩
  simp [Operation.serve, Session.start, isFull, Store.set, Store.settle, Store.get]

/-- A token that is stored in memory is the token until the session is written again. -/
theorem token_run_of_serve {n : Nat} {items : Storage.Items} (memory : (pr.stores n).place = .memory items)
    {t : String} (full : t ≠ "") {later : List (Turn ι)}
    (unwritten : ∀ op, .serve n op ∈ later → op = .token) :
    Session.token ((pr.run callers hasRoots (.serve n (.start t full) :: later)).stores n) =
      .ok (some t) := by
  have stored : (pr.turn callers hasRoots (.serve n (.start t full))).stores n =
      ((Operation.start t full).serve (pr.stores n)).2 := Function.update_self ..
  rw [run, List.foldl_cons, ← run, stores_run_of_unwritten unwritten, stored]
  exact token_of_serve memory full

end Process

/-! ## The theorem -/

section

variable {ι : Type} [DecidableEq ι]

/-- **One registry for all.** Let callers ask for the registry of a process, each with an address and a
session of its own, and let their steps and the operations on the sessions come in any order. All who
are given a registry are given the same; it is the one in the place, and it was built by exactly one of
them, from the address and the session of this one. The place, once filled, is never filled anew. A
caller fails only if there can be no transport to its own address — it cannot be read, or it asks for
TLS without root certificates or for a host that no certificate can name — and if it found the place
empty; it puts nothing there. Who looks after the first success is given the registry with the first
turn, whatever its address. And over memory, a token that is stored through the registry of any caller
is read through that of every other until the session is written again. -/
theorem one_registry (callers : ι → Caller) (hasRoots : Bool) (stores : Nat → Store)
    (schedule : List (Turn ι)) {q : Process ι}
    (reached : (Process.start stores).run callers hasRoots schedule = q) :
    (∀ i j a b, q.stages i = .returned a → q.stages j = .returned b → a = b) ∧
    (∀ i a, q.stages i = .returned a →
      q.cell = some a ∧ ∃! k, Process.BuiltBy callers hasRoots q.builders a k) ∧
    (∀ a, q.cell = some a → ∀ later, (q.run callers hasRoots later).cell = some a) ∧
    (∀ i e, q.stages i = .failed e →
      (Address.Base.parse (callers i).address = .error e ∨
        ∃ base, Address.Base.parse (callers i).address = .ok base ∧ base.tls = true ∧
          (hasRoots = false ∧ e = .endpoint .noRoots ∨
            hasRoots = true ∧ Address.isCertifiable base.authority = false ∧
              e = .endpoint .unusableName)) ∧
      (∃ before after, schedule = before ++ .call i :: after ∧
        ((Process.start stores).run callers hasRoots before).stages i = .called ∧
        ((Process.start stores).run callers hasRoots before).cell = none) ∧
      i ∉ q.builders ∧
      ∀ before after, schedule = before ++ .call i :: after →
        ((Process.start stores).run callers hasRoots (before ++ [.call i])).cell =
          ((Process.start stores).run callers hasRoots before).cell) ∧
    (∀ i a, q.stages i = .returned a → ∀ j, q.stages j = .called → ∀ later,
      (.call j ∉ later → (q.run callers hasRoots later).stages j = .called) ∧
      (.call j ∈ later → (q.run callers hasRoots later).stages j = .returned a)) ∧
    (∀ i j a b, q.stages i = .returned a → q.stages j = .returned b →
      ∀ items, (q.stores a.session).place = .memory items → ∀ t, (full : t ≠ "") → ∀ later,
        (∀ op, .serve a.session op ∈ later → op = .token) →
        Session.token (b.registry (q.run callers hasRoots
          (.serve a.session (.start t full) :: later)).stores).store = .ok (some t)) := by
  have sound : Process.Sound callers hasRoots q :=
    reached ▸ Process.sound_run (Process.sound_start stores) schedule
  -- the cell holds what anyone was given, so that all of them were given the same
  have there (i a) (stage : q.stages i = .returned a) : q.cell = some a := by
    have fits := sound.fits i
    rwa [stage] at fits
  have same (i j a b) (ha : q.stages i = .returned a) (hb : q.stages j = .returned b) : a = b :=
    Option.some.inj ((there i a ha).symm.trans (there j b hb))
  refine ⟨same, fun i a stage => ⟨there i a stage, ?_⟩, fun a cell => Process.cell_run cell,
    fun i e stage => ?_, fun i a given j stage => Process.stages_run_of_called (there i a given) stage,
    fun i j a b ha hb items memory t full later unwritten => ?_⟩
  · obtain ⟨k, built⟩ := sound.cell a (there i a stage)
    exact ⟨k, built, fun l other => Option.some.inj (other.listed.symm.trans built.listed)⟩
  · obtain ⟨refused, out⟩ : Process.Fits callers hasRoots q i (.failed e) := stage ▸ sound.fits i
    subst reached
    refine ⟨Transport.new_eq_error_iff.mp refused, Process.exists_look schedule (stage ▸ trivial), out,
      fun before after split => ?_⟩
    exact Process.cell_call_of_not_mem (split ▸ out)
  · obtain rfl := same i j a b ha hb
    exact Process.token_run_of_serve memory full unwritten

/-- Of three who find the place empty, the second builds first and fills it, the first takes what is
there, and the third fails; the fourth comes later, and is given the registry for an address that cannot
be read. -/
theorem one_registry_raced :
    let callers : Fin 4 → Caller := ![⟨"http://a/b", 0⟩, ⟨"http://c", 1⟩, ⟨"bad", 2⟩, ⟨"bad", 3⟩]
    let schedule : List (Turn (Fin 4)) :=
      [.call 0, .call 1, .call 2, .call 1, .call 0, .call 2, .call 1, .call 0]
    let q := (Process.start fun _ => {}).run callers true schedule
    let a : Instance := ⟨0, ⟨"http://c", ⟨"http", "c", ""⟩⟩, 1⟩
    (q.stages 0 = .returned a ∧ q.cell = some a ∧
      ∃! k, Process.BuiltBy callers true q.builders a k) ∧
    (q.stages 2 = .failed (.unsupportedScheme "bad") ∧ 2 ∉ q.builders) ∧
    (q.run callers true [.call 3]).stages 3 = .returned a ∧
    Session.token (a.registry (q.run callers true
      [.serve a.session (.start "t" (by decide))]).stores).store = .ok (some "t") := by
  intro callers schedule q a
  have first : q.stages 0 = .returned a := by decide +kernel
  have second : q.stages 1 = .returned a := by decide +kernel
  have third : q.stages 2 = .failed (.unsupportedScheme "bad") := by decide +kernel
  have fourth : q.stages 3 = .called := by decide +kernel
  obtain ⟨-, given, -, failed, later, token⟩ :=
    one_registry callers true (fun _ => {}) schedule (show _ = q from rfl)
  exact ⟨⟨first, given 0 a first⟩, ⟨third, (failed 2 _ third).2.2.1⟩,
    (later 0 a first 3 fourth [.call 3]).2 List.mem_cons_self,
    token 0 1 a a first second [] (by decide +kernel) "t" (by decide) [] nofun⟩

/-- An address that can be read, and over which a call fails although nobody else has called: the host
is one that no certificate can name. Without TLS it can be dialed. -/
theorem shared_uncertifiable :
    let callers : Unit → Caller := fun _ => ⟨"https://[::1]:7/x", 0⟩
    let q := (Process.start fun _ => {}).run callers true [.call (), .call ()]
    q.stages () = .failed (.endpoint .unusableName) ∧
    Address.Base.parse "https://[::1]:7/x" = .ok ⟨"https", "[::1]:7", "/x"⟩ ∧
    Transport.new "http://[::1]:7/x" true = .ok ⟨"http://[::1]:7/x", ⟨"http", "[::1]:7", "/x"⟩⟩ := by
  decide +kernel

end

end AdminPanel.Rpc
