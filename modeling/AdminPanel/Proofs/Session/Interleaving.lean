import AdminPanel.Proofs.Session.History

/-!
# Sessions that share a file at the same time

Several instances have their sessions in one file. Each does its operations one after the other, and
each operation takes two steps at most, a read of the file and a replacement; between the two steps
the others go on as they like, and the file may be another one when it is replaced. All of them only
touch the token, and that carries the proof: whatever an instance has read, what it puts back under
other names is what stood there from the beginning.

Who reads beside an operation of an instance, without waiting for it, counts as another instance.

## The architecture

* **`System.step`** — an instance takes its next step; a run takes steps of any instances in any
  order.
* **`System.step_cases`** — what a step can do; every invariant starts from it.
* **`Serial`** — the invariant: the file stands for what was last put there, what an instance still
  holds is based on items that differ in the token only, and the operations that are over have the
  responses that they have one after the other, in the order in which they ended.
* **`serial_step`**, **`serial_run`** — it is preserved by each step, and holds after every run.
-/

namespace AdminPanel.Session

open Storage

/-! ## Steps of several instances -/

variable {ι : Type} {initial : Items}

/-- Instances on one file: what each still has to do, the first of it perhaps begun, and what those
that have begun are going to put in the place of the file. -/
structure System (ι : Type) where
  files : FileTree
  todo : ι → List Operation
  held : ι → Option Items
  log : List (Event ι)

variable [DecidableEq ι]

namespace System

def start (files : FileTree) (programs : ι → List Operation) : System ι :=
  ⟨files, programs, fun _ => none, []⟩

/-- An instance takes its next step, if it has one. -/
def step (path : FilePath) (sys : System ι) (i : ι) : System ι :=
  match sys.todo i, sys.held i with
  | [], _ => sys
  | op :: rest, none =>
    let seen := readItems sys.files path
    match op.request.plan seen with
    | .answer response =>
      { sys with
        todo := Function.update sys.todo i rest
        log := sys.log ++ [.read i seen, .ended i op (told response)] }
    | .replace items =>
      { sys with
        held := Function.update sys.held i (some items)
        log := sys.log ++ [.read i seen] }
  | op :: rest, some items =>
    match replaceItems sys.files path items with
    | .error e =>
      { sys with
        todo := Function.update sys.todo i rest
        held := Function.update sys.held i none
        log := sys.log ++ [.ended i op (.error e)] }
    | .ok files' =>
      { files := files'
        todo := Function.update sys.todo i rest
        held := Function.update sys.held i none
        log := sys.log ++ [.replaced i items, .ended i op (.ok none)] }

/-- Steps of the instances in some order. -/
def run (path : FilePath) (sys : System ι) (schedule : List ι) : System ι :=
  schedule.foldl (step path) sys

/-- What a step can do. -/
inductive StepCases (path : FilePath) (sys : System ι) (i : ι) : System ι → Prop
  | idle (todo : sys.todo i = []) : StepCases path sys i sys
  | answered (op : Operation) (rest : List Operation) (response : Response)
      (todo : sys.todo i = op :: rest) (held : sys.held i = none)
      (plan : op.request.plan (readItems sys.files path) = .answer response) :
      StepCases path sys i
        { sys with
          todo := Function.update sys.todo i rest
          log := sys.log ++ [.read i (readItems sys.files path), .ended i op (told response)] }
  | begun (op : Operation) (rest : List Operation) (items : Items)
      (todo : sys.todo i = op :: rest) (held : sys.held i = none)
      (plan : op.request.plan (readItems sys.files path) = .replace items) :
      StepCases path sys i
        { sys with
          held := Function.update sys.held i (some items)
          log := sys.log ++ [.read i (readItems sys.files path)] }
  | failed (op : Operation) (rest : List Operation) (items : Items) (e : Fault)
      (todo : sys.todo i = op :: rest) (held : sys.held i = some items)
      (failed : replaceItems sys.files path items = .error e) :
      StepCases path sys i
        { sys with
          todo := Function.update sys.todo i rest
          held := Function.update sys.held i none
          log := sys.log ++ [.ended i op (.error e)] }
  | replaced (op : Operation) (rest : List Operation) (items : Items) (files' : FileTree)
      (todo : sys.todo i = op :: rest) (held : sys.held i = some items)
      (replaced : replaceItems sys.files path items = .ok files') :
      StepCases path sys i
        { files := files'
          todo := Function.update sys.todo i rest
          held := Function.update sys.held i none
          log := sys.log ++ [.replaced i items, .ended i op (.ok none)] }

theorem step_cases (path : FilePath) (sys : System ι) (i : ι) :
    StepCases path sys i (sys.step path i) := by
  unfold step
  cases todo : sys.todo i with
  | nil => exact .idle todo
  | cons op rest =>
    cases held : sys.held i with
    | none =>
      simp only
      cases plan : op.request.plan (readItems sys.files path) with
      | answer response => exact .answered op rest response todo held plan
      | replace items => exact .begun op rest items todo held plan
    | some items =>
      simp only
      cases result : replaceItems sys.files path items with
      | error e => exact .failed op rest items e todo held result
      | ok files' => exact .replaced op rest items files' todo held result

end System

/-! ## The invariant -/

section Serial

variable {path : FilePath} {files : FileTree} {programs : ι → List Operation} {sys : System ι}

/-- What holds after any number of steps. -/
structure Serial (path : FilePath) (files : FileTree) (initial : Items)
    (programs : ι → List Operation) (sys : System ι) : Prop where
  contents : Contents sys.files path (standing initial sys.log)
  /-- What is held is based on items that were read, which differ from the first in the token only. -/
  held : ∀ i items, sys.held i = some items → ∃ op rest, ∃ base : Items, sys.todo i = op :: rest ∧
    Json.Members.Sorted base ∧ base.SameBut tokenName initial ∧
    op.request.plan (.ok base) = .replace items
  fit : Fit initial sys.log
  program : ∀ i, endedBy i sys.log ++ sys.todo i = programs i
  /-- As long as nobody has replaced the file, doing the operations in order replaces none either. -/
  inOrder : ∃ seq items, InOrder path files initial sys.log seq items ∧
    (sys.files = files ∧ seq = files ∨ Replaceable seq path)

theorem serial_start (h : Contents files path initial) :
    Serial path files initial programs (System.start files programs) where
  contents := h
  held := by
    intro i items held
    cases held
  fit := trivial
  program := fun _ => rfl
  inOrder := ⟨files, initial, ⟨rfl, h, fun _ => rfl⟩, .inl ⟨rfl, rfl⟩⟩

/-- When an operation has ended, it is the next one of its instance that is over. -/
theorem program_ended {i : ι} {op : Operation} {rest : List Operation} {response : Response}
    {tail : List (Event ι)} (program : ∀ i, endedBy i sys.log ++ sys.todo i = programs i)
    (todo : sys.todo i = op :: rest) (tail_ended : ended tail = [(i, op, response)]) (j : ι) :
    endedBy j (sys.log ++ tail) ++ Function.update sys.todo i rest j = programs j := by
  rw [endedBy_append]
  by_cases this : j = i
  · have last : endedBy j tail = [op] := by simp [endedBy, tail_ended, this]
    rw [last, this, Function.update_self, List.append_assoc, List.singleton_append, ← todo]
    exact program i
  · have none : endedBy j tail = [] := by simp [endedBy, tail_ended, Ne.symm this]
    rw [none, Function.update_of_ne this, List.append_nil]
    exact program j

/-- An instance that has read the file and is through. -/
theorem serial_answered {i : ι} {op : Operation} {rest : List Operation} {response : Response}
    (h : Serial path files initial programs sys) (todo : sys.todo i = op :: rest)
    (held : sys.held i = none)
    (plan : op.request.plan (readItems sys.files path) = .answer response) :
    Serial path files initial programs
      { sys with
        todo := Function.update sys.todo i rest
        log := sys.log ++ [.read i (readItems sys.files path), .ended i op (told response)] } := by
  have seen : readItems sys.files path = .ok (standing initial sys.log) :=
    readItems_eq_ok_iff.mpr h.contents
  rw [seen] at plan ⊢
  -- it gives what it gives on what stands, and does nothing to it
  obtain ⟨answers, unchanged⟩ := Request.of_plan_answer plan
  rw [answers] at plan ⊢
  have stands : standing initial (sys.log ++ [.read i (.ok (standing initial sys.log)),
      .ended i op (told (.ok (op.request.answer (standing initial sys.log))))])
        = standing initial sys.log := standing_append _
  refine ⟨?contents, ?held, ?fit, ?program, ?inOrder⟩
  case contents =>
    rw [stands]
    exact h.contents
  case held =>
    intro j items hj
    have other : j ≠ i := by
      rintro rfl
      rw [held] at hj
      cases hj
    simp only [Function.update_of_ne other]
    exact h.held j items hj
  case fit => exact fit_append.mpr ⟨h.fit, rfl, rfl, trivial⟩
  case program => exact program_ended h.program todo rfl
  case inOrder =>
    obtain ⟨seq, items, inOrder, place⟩ := h.inOrder
    have same := inOrder.same
    have answer_eq : op.request.answer items = op.request.answer (standing initial sys.log) :=
      op.request.answer_same same
    have plan' : op.request.plan (.ok items) = .answer (.ok (op.request.answer items)) := by
      rw [answer_eq]
      exact op.request.plan_answer_same (fun name => (same name).symm) plan
    have left : (op.request.apply items).Same (standing initial (sys.log ++
        [.read i (.ok (standing initial sys.log)),
          .ended i op (told (.ok (op.request.answer (standing initial sys.log))))])) := by
      rw [stands, ← unchanged]
      exact op.request.apply_same same
    obtain ⟨seq', inOrder', updated⟩ := inOrder.concat _ (.inr plan')
      (by rw [← answer_eq]; rfl) left
    refine ⟨seq', _, inOrder', ?_⟩
    rcases updated.eq_or_replaceable with rfl | again
    · exact place
    · exact .inr again

/-- An instance that has read the file and is going to replace it. -/
theorem serial_begun {i : ι} {op : Operation} {rest : List Operation} {doc : Items}
    (h : Serial path files initial programs sys) (todo : sys.todo i = op :: rest)
    (plan : op.request.plan (readItems sys.files path) = .replace doc) :
    Serial path files initial programs
      { sys with
        held := Function.update sys.held i (some doc)
        log := sys.log ++ [.read i (readItems sys.files path)] } := by
  have seen : readItems sys.files path = .ok (standing initial sys.log) :=
    readItems_eq_ok_iff.mpr h.contents
  rw [seen] at plan ⊢
  -- a read changes nothing that stands and ends no operation; only the held document is new
  have stands : standing initial (sys.log ++ [.read i (.ok (standing initial sys.log))])
      = standing initial sys.log := standing_append _
  have nothing : ended (sys.log ++ [.read i (.ok (standing initial sys.log))]) = ended sys.log := by
    rw [ended_append]
    exact List.append_nil _
  refine ⟨?contents, ?held, ?fit, ?program, ?inOrder⟩
  case contents =>
    rw [stands]
    exact h.contents
  case held =>
    intro j items (hj : Function.update sys.held i (some doc) j = some items)
    by_cases this : j = i
    · subst this
      rw [Function.update_self] at hj
      cases hj
      exact ⟨op, rest, _, todo, h.contents.sorted, h.fit.sameBut, plan⟩
    · rw [Function.update_of_ne this] at hj
      exact h.held j items hj
  case fit => exact fit_append.mpr ⟨h.fit, rfl, trivial⟩
  case program =>
    intro j
    rw [endedBy, nothing]
    exact h.program j
  case inOrder =>
    obtain ⟨seq, items, ⟨served, contents, same⟩, place⟩ := h.inOrder
    refine ⟨seq, items, ⟨?_, contents, ?_⟩, place⟩
    · rw [nothing]
      exact served
    · rw [stands]
      exact same

/-- An instance that has replaced the file. What it has put there differs from what stood there in the
token only, however old that is which it has read. -/
theorem serial_replaced {i : ι} {op : Operation} {rest : List Operation} {doc : Items}
    {files' : FileTree} (h : Serial path files initial programs sys)
    (todo : sys.todo i = op :: rest) (held : sys.held i = some doc)
    (replaced : replaceItems sys.files path doc = .ok files') :
    Serial path files initial programs
      { files := files'
        todo := Function.update sys.todo i rest
        held := Function.update sys.held i none
        log := sys.log ++ [.replaced i doc, .ended i op (.ok none)] } := by
  obtain ⟨op', rest', base, todo', sorted, based, plan⟩ := h.held i doc held
  rw [todo] at todo'
  cases todo'
  obtain ⟨rfl, independent⟩ := Request.of_plan_replace plan
  rw [op.request_name] at independent
  -- under other names there stands in the document what stood there from the beginning
  have untouched (items : Items) : (op.request.apply items).SameBut tokenName items := by
    rw [← op.request_name]
    exact op.request.apply_sameBut items
  have left : (op.request.apply base).SameBut tokenName (standing initial sys.log) :=
    ((untouched base).trans based).trans h.fit.sameBut.symm
  have answer_eq (items : Items) : op.answer items = none := by
    rw [Operation.answer, (independent items).2]
    rfl
  have stands : standing initial (sys.log ++ [.replaced i (op.request.apply base),
      .ended i op (.ok none)]) = op.request.apply base := standing_append _
  refine ⟨?contents, ?held, ?fit, ?program, ?inOrder⟩
  case contents =>
    rw [stands]
    have document := holdsDocument_of_replaceItems (op.request.sorted_apply sorted) replaced
    exact .document _ document
  case held =>
    intro j items (hj : Function.update sys.held i none j = some items)
    by_cases this : j = i
    · subst this
      rw [Function.update_self] at hj
      cases hj
    · rw [Function.update_of_ne this] at hj
      simp only [Function.update_of_ne this]
      exact h.held j items hj
  case fit =>
    refine fit_append.mpr ⟨h.fit, left, ?_, trivial⟩
    show (.ok none : Response) = .ok (op.answer _)
    rw [answer_eq]
  case program => exact program_ended h.program todo rfl
  case inOrder =>
    obtain ⟨seq, items, inOrder, place⟩ := h.inOrder
    have replaceable : Replaceable seq path := by
      rcases place with ⟨first, rfl⟩ | replaceable
      · rw [first] at replaced
        exact replaceable_of_replaced replaced
      · exact replaceable
    have others : (op.request.apply items).SameBut tokenName (op.request.apply base) :=
      ((untouched items).trans inOrder.same.sameBut).trans left.symm
    have same : (op.request.apply items).Same (standing initial (sys.log ++
        [.replaced i (op.request.apply base), .ended i op (.ok none)])) := by
      rw [stands]
      exact others.same (independent items).1.symm
    obtain ⟨seq', inOrder', updated⟩ := inOrder.concat _ (.inl replaceable)
      (by rw [answer_eq]; rfl) same
    exact ⟨seq', _, inOrder', .inr (updated.replaceable replaceable)⟩

/-! ## Any run -/

/-- An operation ended with a failure of the file system. -/
def Event.IsIoFault : Event ι → Prop
  | .ended _ _ response => Storage.IsIoFault response
  | .read _ _ | .replaced _ _ => False

/-- **One step preserves the invariant**, unless the file system fails, which it does not where a file
can be replaced. -/
theorem serial_step (h : Serial path files initial programs sys) (i : ι) :
    (¬ Replaceable sys.files path ∧ ∃ e ∈ (sys.step path i).log, e.IsIoFault) ∨
      Serial path files initial programs (sys.step path i) ∧
        (Replaceable sys.files path → Replaceable (sys.step path i).files path) := by
  have stepped := sys.step_cases path i
  generalize sys.step path i = sys' at stepped ⊢
  cases stepped with
  | idle => exact .inr ⟨h, id⟩
  | answered op rest response todo held plan => exact .inr ⟨serial_answered h todo held plan, id⟩
  | begun op rest items todo held plan => exact .inr ⟨serial_begun h todo plan, id⟩
  | failed op rest items e todo held failed =>
    rcases replaceItems_cases sys.files path items with ⟨f, io, stuck⟩ | ⟨files', replaced⟩
    · refine .inl ⟨stuck, _, List.mem_append_right _ List.mem_cons_self, f, ?_⟩
      rw [io] at failed
      cases failed
      rfl
    · rw [failed] at replaced
      cases replaced
  | replaced op rest items files' todo held replaced =>
    refine .inr ⟨serial_replaced h todo held replaced, fun _ => ?_⟩
    exact replaceable_of_replaceItems replaced

theorem System.log_step (path : FilePath) (sys : System ι) (i : ι) :
    ∃ tail, (sys.step path i).log = sys.log ++ tail := by
  have stepped := sys.step_cases path i
  generalize sys.step path i = sys' at stepped ⊢
  cases stepped with
  | idle => exact ⟨[], (List.append_nil _).symm⟩
  | answered | begun | failed | replaced => exact ⟨_, rfl⟩

theorem System.log_run (path : FilePath) (sys : System ι) (schedule : List ι) :
    ∃ tail, (sys.run path schedule).log = sys.log ++ tail := by
  induction schedule generalizing sys with
  | nil => exact ⟨[], (List.append_nil _).symm⟩
  | cons i rest ih =>
    obtain ⟨here, first⟩ := sys.log_step path i
    obtain ⟨later, others⟩ := ih (sys.step path i)
    refine ⟨here ++ later, ?_⟩
    rw [← List.append_assoc, ← first]
    exact others

/-- **Every run preserves the invariant**, whatever the order of the steps. -/
theorem serial_run (h : Serial path files initial programs sys) (schedule : List ι)
    (usable : Replaceable sys.files path ∨
      ∀ e ∈ (sys.run path schedule).log, ¬ e.IsIoFault) :
    Serial path files initial programs (sys.run path schedule) := by
  -- induction on the steps that are to come
  induction schedule generalizing sys with
  | nil => exact h
  | cons i rest ih =>
    rcases serial_step h i with ⟨stuck, e, mem, fault⟩ | ⟨h', replaceable⟩
    · rcases usable with usable | noFault
      · exact absurd usable stuck
      · obtain ⟨tail, log⟩ := (sys.step path i).log_run path rest
        refine absurd fault (noFault e ?_)
        show e ∈ ((sys.step path i).run path rest).log
        rw [log]
        exact List.mem_append_left tail mem
    · exact ih h' (usable.imp replaceable id)

/-- **Sessions on one file, at the same time.**

Let any instances have their sessions in a file that is missing, blank or holds a document of strings,
and let them take the steps of their operations in any order. As long as the file system does not
fail, because a file can be replaced at the path or because no operation says so:

* whoever reads the file sees the items that it held at the beginning, or those of the document that
  was last put in its place, as a whole;
* every document has the items of the beginning, but for the token;
* no operation fails, and an operation gives what it gives on what stands when it ends; in particular
  the token is that of the last document;
* the operations that are over have the responses that they have when they are done one after the
  other on the file as it was, in the order in which they ended, and that leaves the same items;
* this order has the operations of each instance in the order in which the instance has them. -/
theorem sessions_interleave (programs : ι → List Operation) (h : Contents files path initial)
    (schedule : List ι)
    (usable : Replaceable files path ∨
      ∀ e ∈ ((System.start files programs).run path schedule).log, ¬ e.IsIoFault) :
    let sys := (System.start files programs).run path schedule
    (∀ {front back : List (Event ι)} {i : ι} {seen : Except Fault Items},
      sys.log = front ++ .read i seen :: back → seen = .ok (standing initial front)) ∧
    (∀ {i : ι} {items : Items}, .replaced i items ∈ sys.log → items.SameBut tokenName initial) ∧
    (∀ {front back : List (Event ι)} {i : ι} {op : Operation} {response : Response},
      sys.log = front ++ .ended i op response :: back →
        response = .ok (op.answer (standing initial front))) ∧
    (∃ files' items, Operation.serveAll ⟨.file path, files⟩ ((ended sys.log).map (·.2.1)) =
        ((ended sys.log).map (·.2.2), ⟨.file path, files'⟩) ∧
      Contents files' path items ∧ items.Same (standing initial sys.log)) ∧
    (∀ i, endedBy i sys.log ++ sys.todo i = programs i) ∧
    Contents sys.files path (standing initial sys.log) := by
  intro sys
  have serial : Serial path files initial programs sys := serial_run (serial_start h) schedule usable
  refine ⟨?reads, ?others, ?responses, ?order, serial.program, serial.contents⟩
  case reads =>
    intro front back i seen here
    exact (serial.fit.of_mem here).1
  case others =>
    intro i items mem
    obtain ⟨front, back, here⟩ := List.append_of_mem mem
    exact (serial.fit.of_mem here).2
  case responses =>
    intro front back i op response here
    exact (serial.fit.of_mem here).1
  case order =>
    obtain ⟨files', items, inOrder, -⟩ := serial.inOrder
    exact ⟨files', items, inOrder.served, inOrder.contents, inOrder.same⟩

/-- Two instances on a missing file, which both read it before either of them puts its token there: they
start their sessions one after the other, the one last that replaces the file last, and its token is
the one that is read. -/
theorem sessions_interleave_missing :
    let sys := System.run ["s.json"] (System.start {} fun first : Bool =>
      if first then [.start "a" (by decide), .token] else [.start "b" (by decide)])
      [true, false, false, true, true]
    (ended sys.log).map (·.2) = [(.start "b" (by decide), .ok none),
      (.start "a" (by decide), .ok none), (.token, .ok (some "a"))] ∧
    (Operation.serveAll ⟨.file ["s.json"], {}⟩
      [.start "b" (by decide), .start "a" (by decide), .token]).1 =
        [.ok none, .ok none, .ok (some "a")] := by
  have missing : Contents {} ["s.json"] [] := .absent (by decide)
  have replaceable : Replaceable {} ["s.json"] := ⟨{}, rfl, fun bytes => ⟨_, rfl⟩⟩
  have interleaved := sessions_interleave (fun first : Bool =>
    if first then [.start "a" (by decide), .token] else [.start "b" (by decide)])
    missing [true, false, false, true, true] (.inl replaceable)
  intro sys
  have history : (ended sys.log).map (·.2) = [(.start "b" (by decide), .ok none),
      (.start "a" (by decide), .ok none), (.token, .ok (some "a"))] := by decide +kernel
  obtain ⟨-, -, -, ⟨files', items, served, -⟩, -⟩ := interleaved
  have order := congrArg (List.map Prod.fst) history
  have responses := congrArg (List.map Prod.snd) history
  rw [List.map_map] at order responses
  refine ⟨history, ?_⟩
  show (Operation.serveAll _ [_, _, _]).1 = [_, _, _]
  exact (congrArg (fun ops => (Operation.serveAll _ ops).1) order.symm).trans
    ((congrArg Prod.fst served).trans responses)

end Serial

end AdminPanel.Session
