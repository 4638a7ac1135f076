import Mathlib.Data.List.Nodup
import Mathlib.Logic.Function.Basic
import AdminPanel.Proofs.Rpc.Calling

/-!
# Calls that run at once

Several calls on one line are all under way until each has succeeded or one has failed; with the first
failure the others are given up, wherever they are. A call takes two turns, one to arrive and one to have its
reply read, and the turns of different calls come in any order.

## The architecture

* **`Race.turn`** — a call takes its next turn; a run takes turns in any order. The two turns of a call with
  no other between them are `unary` (`turn_turn`).
* **`turned`** — what a turn can do below an address that can be dialed.
* **`Sound`** — the invariant: of methods with different names, each call has what it would have had alone.
* **`exists_joins`** — once each call has had two turns, there is a result.
-/

namespace AdminPanel.Rpc

open Storage (Store)

/-! ## Different methods do not meet -/

/-- A reply to one method leaves those to the others. -/
theorem Script.next_next_of_ne {name other : String} (ne : name ≠ other) (s : Script) :
    ((s.next other).2.next name).1 = (s.next name).1 := by
  induction s with
  | nil => rfl
  | cons entry rest ih =>
    obtain ⟨key, replies⟩ := entry
    by_cases here : key = other
    · have elsewhere : key ≠ name := fun same => ne (same.symm.trans here)
      simp only [next, if_pos here, if_neg elsewhere]
      match replies with
      | [] | [_] | _ :: _ :: _ => simp only [next, if_neg elsewhere]
    · simp only [next, if_neg here]
      by_cases key = name
      · subst key
        match replies with
        | [] | [_] | _ :: _ :: _ => simp only [↓reduceIte]
      · simp only [*, ↓reduceIte]

theorem Peer.answer_answer_of_ne {name other : String} (ne : name ≠ other) (p : Peer) :
    ((p.answer other).2.answer name).1 = (p.answer name).1 := by
  cases p with
  | unreachable => rfl
  | scripted script => exact congrArg some (Script.next_next_of_ne ne script)

/-- Whether a call is answered at all does not depend on its method. -/
theorem replyAt_eq_error_iff {name other : String} {s : Store} {p : Peer} {status : Status} :
    replyAt s p name = .error status ↔ replyAt s p other = .error status := by
  rw [replyAt, replyAt]
  cases attach s [] with
  | error refused => rfl
  | ok _ =>
    cases p with
    | unreachable => rfl
    | scripted script => simp [Peer.answer]

theorem replyAt_answer_of_ne {name other : String} (ne : name ≠ other) (s : Store) (p : Peer) :
    replyAt s (p.answer other).2 name = replyAt s p name := by
  rw [replyAt, replyAt, Peer.answer_answer_of_ne ne]

/-! ## Turns -/

/-- Something that is asked of the server. -/
structure Ask where
  {Request : Type}
  {Response : Type}
  method : Method Request Response
  request : Request

/-- How far a call is: it has not been sent, it has arrived and its reply is still to be read, or it has
succeeded. -/
inductive Progress (β : Type) where
  | waiting
  | sent (reply : Reply)
  | done (b : β)

/-- How many turns a call still takes. -/
def Progress.left {β : Type} : Progress β → Nat
  | .waiting => 2
  | .sent _ => 1
  | .done _ => 0

/-- Calls that run at once: their line, how far each of them is, and which of them has failed, if one has. -/
structure Race {ι : Type} (asks : ι → Ask) where
  line : Line
  progress : (i : ι) → Progress (asks i).Response
  failed : Option (ι × Failure) := none

namespace Race

variable {ι : Type} [DecidableEq ι] {asks : ι → Ask}

def start (asks : ι → Ask) (l : Line) : Race asks := { line := l, progress := fun _ => .waiting }

/-- A call comes further. -/
def advance (r : Race asks) (i : ι) (p : Progress (asks i).Response) : Race asks :=
  { r with progress := Function.update r.progress i p }

theorem progress_advance_self (r : Race asks) (i : ι) (p : Progress (asks i).Response) :
    (r.advance i p).progress i = p :=
  Function.update_self ..

theorem progress_advance_of_ne (r : Race asks) {i j : ι} (ne : j ≠ i) (p : Progress (asks i).Response) :
    (r.advance i p).progress j = r.progress j :=
  Function.update_of_ne ne ..

/-- The next turn of a call. When one has failed, there are no more turns. -/
def turn (r : Race asks) (i : ι) : Race asks :=
  match r.failed with
  | some _ => r
  | none =>
    match r.progress i with
    | .waiting =>
      match runOn (send (asks i).method (asks i).request) r.line with
      | (.ok reply, line) => { r.advance i (.sent reply) with line }
      | (.error f, line) => { r with line, failed := some (i, f) }
    | .sent reply =>
      match reply.result (asks i).method with
      | .ok b => r.advance i (.done b)
      | .error f => { r with failed := some (i, f) }
    | .done _ => r

/-- Turns in some order. -/
def run (r : Race asks) (schedule : List ι) : Race asks :=
  schedule.foldl turn r

/-- What has come of the calls: the answers of all of them, or a failure. -/
inductive Joins (r : Race asks) : Except Failure ((i : ι) → (asks i).Response) → Prop where
  | answers {answers : (i : ι) → (asks i).Response} (running : r.failed = none)
      (done : ∀ i, r.progress i = .done (answers i)) : Joins r (.ok answers)
  | failed {i : ι} {f : Failure} (failed : r.failed = some (i, f)) : Joins r (.error f)

/-! ### What a turn does -/

section Turns

variable {r : Race asks} {i : ι}

theorem turn_of_failed {e : ι × Failure} (failed : r.failed = some e) : r.turn i = r := by
  rw [turn, failed]

theorem run_of_failed {e : ι × Failure} (failed : r.failed = some e) (schedule : List ι) :
    r.run schedule = r := by
  induction schedule with
  | nil => rfl
  | cons i rest ih =>
    show (r.turn i).run rest = r
    rw [turn_of_failed failed, ih]

/-- A call that waits is made. -/
theorem turn_of_waiting (running : r.failed = none) (stage : r.progress i = .waiting) :
    r.turn i =
      match runOn (send (asks i).method (asks i).request) r.line with
      | (.ok reply, line) => { r.advance i (.sent reply) with line }
      | (.error f, line) => { r with line, failed := some (i, f) } := by
  rw [turn, running, stage]

/-- The reply to a call that has been made is read. -/
theorem turn_of_sent {reply : Reply} (running : r.failed = none) (stage : r.progress i = .sent reply) :
    r.turn i =
      match reply.result (asks i).method with
      | .ok b => r.advance i (.done b)
      | .error f => { r with failed := some (i, f) } := by
  rw [turn, running, stage]

theorem turn_of_done {b : (asks i).Response} (stage : r.progress i = .done b) : r.turn i = r := by
  unfold turn
  cases r.failed with
  | some _ => rfl
  | none => rw [stage]

/-- **The two turns of a call, with no other between them, are the call.** -/
theorem turn_turn (running : r.failed = none) (stage : r.progress i = .waiting) :
    let called := runOn (unary (asks i).method (asks i).request) r.line
    ((r.turn i).turn i).line = called.2 ∧
      (∀ b, called.1 = .ok b → ((r.turn i).turn i).failed = none ∧
        ((r.turn i).turn i).progress = Function.update r.progress i (.done b)) ∧
      (∀ f, called.1 = .error f → ((r.turn i).turn i).failed = some (i, f)) := by
  intro called
  have call : called = _ := runOn_unary (asks i).method (asks i).request r.line
  have first := turn_of_waiting running stage
  -- two turns of one call are the unary call, unless the sending has failed
  rcases sent : runOn (send (asks i).method (asks i).request) r.line with ⟨f | reply, line⟩ <;>
    rw [sent] at call first
  · rw [call, first, turn_of_failed rfl]
    exact ⟨rfl, nofun, fun _ same => by cases same; rfl⟩
  · have made : (r.turn i).progress i = .sent reply := by
      rw [first]
      exact progress_advance_self ..
    have second := turn_of_sent (by rw [first]; exact running) made
    rw [call, second, first]
    simp only
    generalize reply.result (asks i).method = read
    cases read with
    | error f => exact ⟨rfl, nofun, fun _ same => by cases same; rfl⟩
    | ok b =>
      refine ⟨rfl, fun _ same => ?_, nofun⟩
      cases same
      exact ⟨running, Function.update_idem ..⟩

end Turns

/-- What a turn can do below an address that can be dialed. -/
inductive Turned (r : Race asks) (i : ι) : Race asks → Prop where
  | idle (ended : r.failed ≠ none ∨ ∃ b, r.progress i = .done b) : Turned r i r
  | unsent {status : Status} (running : r.failed = none) (stage : r.progress i = .waiting)
      (h : replyAt r.line.store r.line.peer (asks i).method.name = .error status) :
    Turned r i { r with failed := some (i, .ofStatus status) }
  | sent {reply : Reply} {c : Call} (running : r.failed = none) (stage : r.progress i = .waiting)
      (h : replyAt r.line.store r.line.peer (asks i).method.name = .ok reply)
      (carries : Carries r.line (asks i).method (asks i).request c) :
    Turned r i { r.advance i (.sent reply) with line := r.line.after (asks i).method.name c }
  | read {reply : Reply} {b : (asks i).Response} (running : r.failed = none)
      (stage : r.progress i = .sent reply) (h : reply.outcome (asks i).method = .ok b) :
    Turned r i (r.advance i (.done b))
  | refused {reply : Reply} {status : Status} (running : r.failed = none)
      (stage : r.progress i = .sent reply) (h : reply.outcome (asks i).method = .error status) :
    Turned r i { r with failed := some (i, .ofStatus status) }

section

variable {address : String} {hasRoots : Bool} {l : Line} {r : Race asks}

theorem turned (dialed : Transport.new address hasRoots = .ok r.line.transport)
    (faithful : ∀ i, Faithful (asks i).method (asks i).request) (i : ι) : Turned r i (r.turn i) := by
  -- once a call has failed no turn does anything
  cases running : r.failed with
  | some ended =>
    rw [turn_of_failed running]
    exact .idle (.inl (by rw [running]; nofun))
  | none =>
    cases stage : r.progress i with
    | done b =>
      rw [turn_of_done stage]
      exact .idle (.inr ⟨b, stage⟩)
    | waiting =>
      have sends := sends_send dialed (faithful i)
      rw [turn_of_waiting running stage]
      generalize runOn (send (asks i).method (asks i).request) r.line = sent at sends
      cases sends with
      | unsent h => exact .unsent running stage h
      | sent h carries => exact .sent running stage h carries
    | sent reply =>
      have means := Reply.result_eq_outcome (asks i).method reply
      rw [turn_of_sent running stage, means]
      cases h : reply.outcome (asks i).method with
      | ok b => exact .read running stage h
      | error status => exact .refused running stage h

/-! ### The invariant -/

/-- How far a call is fits a line: while it waits it would be answered as on that line, and what it has is
what it would have had there. -/
def Fits (l : Line) (peer : Peer) (ask : Ask) : Progress ask.Response → Prop
  | .waiting => replyAt l.store peer ask.method.name = replyAt l.store l.peer ask.method.name
  | .sent reply => replyAt l.store l.peer ask.method.name = .ok reply
  | .done b => outcomeAt l.store l.peer ask.method = .ok b

theorem Fits.answer {peer : Peer} {ask : Ask} {p : Progress ask.Response} (h : Fits l peer ask p)
    {other : String} (ne : ask.method.name ≠ other) : Fits l (peer.answer other).2 ask p := by
  cases p with
  | waiting => exact (replyAt_answer_of_ne ne l.store peer).trans h
  | sent | done => exact h

/-- The calls are as each would be alone on the line where they all started, and none has arrived more than
once. -/
structure Sound (l : Line) (r : Race asks) : Prop where
  store : r.line.store = l.store
  transport : r.line.transport = l.transport
  progress : ∀ i, Fits l r.line.peer (asks i) (r.progress i)
  failed : ∀ i f, r.failed = some (i, f) →
    ∃ status, outcomeAt l.store l.peer (asks i).method = .error status ∧ f = .ofStatus status
  calls : ∃ issued calls, r.line.calls = l.calls ++ calls ∧ issued.Nodup ∧
    (∀ i, i ∈ issued ↔ r.progress i ≠ .waiting) ∧
    List.Forall₂ (fun i c => Carries l (asks i).method (asks i).request c) issued calls

omit [DecidableEq ι] in
theorem sound_start (asks : ι → Ask) (l : Line) : Sound l (start asks l) where
  store := rfl
  transport := rfl
  progress _ := rfl
  failed := nofun
  calls := ⟨[], [], (List.append_nil _).symm, .nil, fun _ => ⟨nofun, fun h => absurd rfl h⟩, .nil⟩

/-- A call that comes further has been made if it had been made before. -/
theorem advance_ne_waiting_iff {i : ι} {p : Progress (asks i).Response} (made : p ≠ .waiting) (j : ι) :
    (r.advance i p).progress j ≠ .waiting ↔ j = i ∨ r.progress j ≠ .waiting := by
  by_cases same : j = i
  · subst same
    simpa [progress_advance_self] using made
  · simp [progress_advance_of_ne r same, same]

/-- A turn keeps the calls sound if their methods have different names. -/
theorem sound_turn (dialed : Transport.new address hasRoots = .ok l.transport)
    (faithful : ∀ i, Faithful (asks i).method (asks i).request)
    (named : ∀ i j, (asks i).method.name = (asks j).method.name → i = j)
    (sound : Sound l r) (i : ι) : Sound l (r.turn i) := by
  have turned := turned (by rw [sound.transport]; exact dialed) faithful i
  have fits := sound.progress i
  generalize r.turn i = r' at turned
  -- by what the turn has done; a reading or sending turn moves one call and leaves the others
  cases turned with
  | idle => exact sound
  | unsent running stage h =>
    rw [stage, Fits, ← sound.store, h] at fits
    refine { sound with failed := fun j f same => ?_ }
    cases same
    exact ⟨_, by rw [outcomeAt, ← sound.store, ← fits]; rfl, rfl⟩
  | refused running stage h =>
    rw [stage, Fits] at fits
    refine { sound with failed := fun j f same => ?_ }
    cases same
    exact ⟨_, by rw [outcomeAt, fits]; exact h, rfl⟩
  | @read reply b running stage h =>
    rw [stage, Fits] at fits
    have done : Fits l r.line.peer (asks i) (.done b) := by
      rw [Fits, outcomeAt, fits]
      exact h
    obtain ⟨issued, calls, left, once, made, carried⟩ := sound.calls
    refine { sound with
      progress := (Function.forall_update_iff _ _).mpr ⟨done, fun j _ => sound.progress j⟩
      calls := ⟨issued, calls, left, once, fun j => ?_, carried⟩ }
    have begun : r.progress i ≠ .waiting := by simp [stage]
    rw [advance_ne_waiting_iff (p := .done b) (by simp), made]
    exact ⟨.inr, fun h => h.elim (fun same => by rwa [same]) id⟩
  | @sent reply c running stage h carries =>
    rw [stage, Fits, ← sound.store, h] at fits
    have sent : Fits l (r.line.peer.answer (asks i).method.name).2 (asks i) (.sent reply) := by
      rw [Fits, ← sound.store]
      exact fits.symm
    obtain ⟨issued, calls, left, once, made, carried⟩ := sound.calls
    -- a call still waiting has not been issued yet, which keeps the calls issued apart
    have fresh : i ∉ issued := fun within => (made i).mp within stage
    have carries : Carries l (asks i).method (asks i).request c :=
      ⟨by rw [← sound.transport]; exact carries.path, by rw [← sound.store]; exact carries.credited,
        carries.body, carries.read⟩
    refine ⟨sound.store, sound.transport, (Function.forall_update_iff _ _).mpr ⟨sent, fun j ne => ?_⟩,
      fun _ _ failed => (by cases running.symm.trans failed),
      issued ++ [i], calls ++ [c], ?_, ?_, fun j => ?_, List.rel_append carried (.cons carries .nil)⟩
    · exact (sound.progress j).answer fun same => ne (named j i same)
    · rw [Line.after, left, List.append_assoc]
    · exact once.append (List.nodup_singleton i) (List.disjoint_singleton.mpr fresh)
    · rw [advance_ne_waiting_iff (p := .sent reply) (by simp), List.mem_append, made, List.mem_singleton]
      exact Or.comm

/-- The turn in which a call is made that is answered: from then on it has its reply. -/
theorem turn_of_answered (dialed : Transport.new address hasRoots = .ok l.transport)
    (faithful : ∀ i, Faithful (asks i).method (asks i).request) (sound : Sound l r) {i : ι} {reply : Reply}
    (running : r.failed = none) (stage : r.progress i = .waiting)
    (h : replyAt l.store l.peer (asks i).method.name = .ok reply) :
    (r.turn i).failed = none ∧ (r.turn i).progress = Function.update r.progress i (.sent reply) ∧
      runOn (unary (asks i).method (asks i).request) r.line =
        (reply.result (asks i).method, (r.turn i).line) := by
  have sends := sends_send (by rw [sound.transport]; exact dialed) (faithful i)
  have fits := sound.progress i
  rw [stage, Fits, h, ← sound.store] at fits
  rw [turn_of_waiting running stage, runOn_unary]
  generalize runOn (send (asks i).method (asks i).request) r.line = sent at sends
  cases sends with
  | unsent unsent => cases fits.symm.trans unsent
  | sent answered =>
    cases fits.symm.trans answered
    exact ⟨running, rfl, rfl⟩

/-- A call that is not answered ends all of them with the turn in which it would have been made. -/
theorem turn_of_unanswered (dialed : Transport.new address hasRoots = .ok l.transport)
    (faithful : ∀ i, Faithful (asks i).method (asks i).request) {i : ι} {status : Status}
    (h : replyAt l.store l.peer (asks i).method.name = .error status) :
    (start asks l).turn i = { start asks l with failed := some (i, .ofStatus status) } ∧
      runOn (unary (asks i).method (asks i).request) l = (.error (.ofStatus status), l) := by
  have sends := sends_send dialed (faithful i)
  rw [turn_of_waiting rfl rfl, runOn_unary]
  show (match runOn (send (asks i).method (asks i).request) l with
    | (.ok reply, line) => { (start asks l).advance i (.sent reply) with line }
    | (.error f, line) => { start asks l with line, failed := some (i, f) }) = _ ∧ _
  generalize runOn (send (asks i).method (asks i).request) l = sent at sends
  cases sends with
  | unsent unsent =>
    cases h.symm.trans unsent
    exact ⟨rfl, rfl⟩
  | sent answered => cases h.symm.trans answered

/-- Whatever the order of the turns, the calls stay sound. -/
theorem sound_run (dialed : Transport.new address hasRoots = .ok l.transport)
    (faithful : ∀ i, Faithful (asks i).method (asks i).request)
    (named : ∀ i j, (asks i).method.name = (asks j).method.name → i = j) (schedule : List ι)
    (sound : Sound l r) : Sound l (r.run schedule) := by
  -- induction on the turns that are still to come
  induction schedule generalizing r with
  | nil => exact sound
  | cons i rest ih => exact ih (sound_turn dialed faithful named sound i)

omit [DecidableEq ι] in
/-- What comes of the calls is what would have come of each alone: all their answers, or one of their
failures. -/
theorem Sound.joins (sound : Sound l r) {result : Except Failure ((i : ι) → (asks i).Response)}
    (joins : r.Joins result) :
    (∀ answers, result = .ok answers → ∀ i, outcomeAt l.store l.peer (asks i).method = .ok (answers i)) ∧
      (∀ f, result = .error f →
        ∃ i status, outcomeAt l.store l.peer (asks i).method = .error status ∧ f = .ofStatus status) := by
  cases joins with
  | answers running done =>
    refine ⟨fun answers same i => ?_, nofun⟩
    cases same
    have fits := sound.progress i
    rw [done i] at fits
    exact fits
  | failed failed =>
    refine ⟨nofun, fun f same => ?_⟩
    cases same
    exact ⟨_, sound.failed _ _ failed⟩

end

/-! ### Coming to an end -/

/-- How many turns a call still takes; none when one has failed. -/
def left (r : Race asks) (i : ι) : Nat :=
  if r.failed = none then (r.progress i).left else 0

variable {r : Race asks}

omit [DecidableEq ι] in
theorem left_of_failed {e : ι × Failure} (failed : r.failed = some e) (j : ι) : r.left j = 0 := by
  rw [left, if_neg (by rw [failed]; nofun)]

theorem left_advance {i : ι} {p : Progress (asks i).Response} (running : r.failed = none)
    (further : p.left < (r.progress i).left) (j : ι) :
    (r.advance i p).left j ≤ r.left j - (if j = i then 1 else 0) := by
  have still : (r.advance i p).failed = none := running
  rw [left, left, if_pos still, if_pos running]
  by_cases same : j = i
  · subst same
    rw [progress_advance_self, if_pos rfl]
    omega
  · rw [progress_advance_of_ne r same, if_neg same]
    omega

/-- With a turn a call has one turn less to take, and the others have no more. -/
theorem left_turn (r : Race asks) (i j : ι) :
    (r.turn i).left j ≤ r.left j - (if j = i then 1 else 0) := by
  -- a failed race has nothing left; otherwise the turn takes one step off its own call only
  cases running : r.failed with
  | some e =>
    rw [turn_of_failed running, left_of_failed running]
    omega
  | none =>
    cases stage : r.progress i with
    | done b =>
      rw [turn_of_done stage, left, if_pos running]
      split
      · next same =>
        subst same
        rw [stage, Progress.left]
      · omega
    | waiting =>
      rw [turn_of_waiting running stage]
      rcases runOn (send (asks i).method (asks i).request) r.line with ⟨f | reply, line⟩
      · rw [left_of_failed rfl]
        exact Nat.zero_le _
      · exact left_advance running (by rw [stage]; exact Nat.lt_add_one 1) j
    | sent reply =>
      rw [turn_of_sent running stage]
      cases reply.result (asks i).method with
      | ok b => exact left_advance running (by rw [stage]; exact Nat.lt_add_one 0) j
      | error f =>
        rw [left_of_failed rfl]
        exact Nat.zero_le _

theorem left_run (r : Race asks) (schedule : List ι) (j : ι) :
    (r.run schedule).left j ≤ r.left j - schedule.count j := by
  induction schedule generalizing r with
  | nil => exact Nat.le_refl _
  | cons i rest ih =>
    have first := left_turn r i j
    have others : ((r.turn i).run rest).left j ≤ (r.turn i).left j - rest.count j := ih (r.turn i)
    rw [List.count_cons]
    show ((r.turn i).run rest).left j ≤ _
    by_cases same : i = j
    · subst same
      simp only [if_true, beq_self_eq_true] at first ⊢
      omega
    · simp only [beq_eq_false_iff_ne.mpr same, if_neg (Ne.symm same), Bool.false_eq_true, if_false] at first ⊢
      omega

/-- **Once each call has had two turns, there is a result.** -/
theorem exists_joins {schedule : List ι} (l : Line) (twice : ∀ i, 2 ≤ schedule.count i) :
    ∃ result, ((start asks l).run schedule).Joins result := by
  generalize ended : (start asks l).run schedule = r
  cases running : r.failed with
  | some e => exact ⟨_, .failed running⟩
  | none =>
    have done (i : ι) : ∃ b, r.progress i = .done b := by
      have none_left : (r.progress i).left = 0 := by
        have bound := left_run (start asks l) schedule i
        rw [ended, left, if_pos running] at bound
        exact Nat.le_zero.mp (bound.trans (by simp [left, start, Progress.left, twice i]))
      cases stage : r.progress i with
      | done b => exact ⟨b, rfl⟩
      | waiting | sent =>
        rw [stage] at none_left
        cases none_left
    exact ⟨_, .answers running fun i => (done i).choose_spec⟩

/-! ### Replies in an order -/

/-- All calls have been made, none has failed, and those that are not through still have their replies. -/
structure Reading (replies : ι → Reply) (r : Race asks) : Prop where
  running : r.failed = none
  progress : ∀ i, r.progress i = .sent (replies i) ∨
    ∃ b, r.progress i = .done b ∧ (replies i).result (asks i).method = .ok b

/-- The first of some calls whose reply is a failure. -/
def firstFailed (asks : ι → Ask) (replies : ι → Reply) (order : List ι) : Option (ι × Failure) :=
  order.findSome? fun i =>
    match (replies i).result (asks i).method with
    | .ok _ => none
    | .error f => some (i, f)

/-- **When all calls have been made, the first failure in the order of the turns is the one that counts**,
and the line is left alone. -/
theorem run_of_reading {replies : ι → Reply} (reading : Reading replies r) (order : List ι) :
    (r.run order).line = r.line ∧
      match firstFailed asks replies order with
      | some e => (r.run order).failed = some e
      | none => Reading replies (r.run order) := by
  -- induction on the turns; once a call has failed nothing changes any more
  induction order generalizing r with
  | nil => exact ⟨rfl, reading⟩
  | cons i rest ih =>
    have next : r.run (i :: rest) = (r.turn i).run rest := rfl
    rw [next, firstFailed, List.findSome?_cons]
    rcases reading.progress i with stage | ⟨b, stage, read⟩
    · rw [turn_of_sent reading.running stage]
      cases read : (replies i).result (asks i).method with
      | error f =>
        rw [run_of_failed rfl]
        exact ⟨rfl, rfl⟩
      | ok b =>
        have further : Reading replies (r.advance i (.done b)) := by
          refine ⟨reading.running, fun j => ?_⟩
          by_cases same : j = i
          · subst same
            exact .inr ⟨b, progress_advance_self .., read⟩
          · rw [progress_advance_of_ne r same]
            exact reading.progress j
        exact ih further
    · rw [turn_of_done stage, read]
      exact ih reading

end Race

end AdminPanel.Rpc
