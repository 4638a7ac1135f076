import AdminPanel.Proofs.Session.Token
import AdminPanel.Proofs.Storage.Steps

/-!
# What happens to sessions that share a file

The operations on a session (`Operation`), and what happens when several instances do them on one
file, as a log of events: reads, replacements, and operations that are over. What the file stands for
at any time is what was last put there (`standing`), and a log tells which events happened as they
should (`Fit`).

A log also puts the operations in an order, that in which they ended. Whether they could have been done
in this order, one after the other, is `InOrder`; it grows with the log by one operation at a time
(`InOrder.concat`).
-/

namespace AdminPanel.Session

open Storage

/-! ## Operations -/

/-- An operation on a session. The empty token is never stored. -/
inductive Operation where
  | token
  | start (t : String) (some : t ≠ "")
  | finish
  deriving DecidableEq

/-- What a session tells of what the storage gives: an empty token counts as none. -/
def told (response : Response) : Response :=
  response.map fun value => value.filter fun t => !t.isEmpty

namespace Operation

/-- Does an operation, without a break. -/
def serve (s : Store) : Operation → Response × Store
  | .token => (Session.token s, s)
  | .start t _ => s.settle (Session.start s t)
  | .finish => s.settle (Session.finish s)

def serveAll (s : Store) : List Operation → List Response × Store
  | [] => ([], s)
  | op :: rest =>
    let (response, s) := op.serve s
    let (responses, s) := serveAll s rest
    (response :: responses, s)

/-- What an operation asks of the storage. -/
def request : Operation → Request
  | .token => .get tokenName
  | .start t _ => .set tokenName t
  | .finish => .remove tokenName

/-- What an operation gives, done on items that stand. -/
def answer (op : Operation) (standing : Items) : Option String :=
  (op.request.answer standing).filter fun t => !t.isEmpty

theorem request_name (op : Operation) : op.request.name = tokenName := by
  cases op <;> rfl

theorem told_settle (s : Store) (result : Except Fault Store) :
    told (s.settle result).1 = (s.settle result).1 := by
  cases result <;> rfl

/-- An operation on a session is one on the storage. -/
theorem serve_eq (s : Store) (op : Operation) :
    op.serve s = (told (s.serve op.request).1, (s.serve op.request).2) := by
  cases op with
  | token =>
    show (Session.token s, s) = (told (s.get tokenName), s)
    rw [Session.token_eq]
    cases s.get tokenName <;> rfl
  | start t some =>
    have full : t.isEmpty = false := by simpa using some
    show s.settle (Session.start s t) = _
    rw [Session.start, full]
    show s.settle (s.set tokenName t) = (told (s.settle (s.set tokenName t)).1, _)
    rw [told_settle]
    rfl
  | finish =>
    show s.settle (s.remove tokenName) = (told (s.settle (s.remove tokenName)).1, _)
    rw [told_settle]
    rfl

theorem serveAll_concat (s : Store) (ops : List Operation) (op : Operation) :
    serveAll s (ops ++ [op]) =
      ((serveAll s ops).1 ++ [(op.serve (serveAll s ops).2).1], (op.serve (serveAll s ops).2).2) := by
  induction ops generalizing s with
  | nil => rfl
  | cons first rest ih =>
    rw [List.cons_append, serveAll, serveAll]
    simp only [ih, List.cons_append]

end Operation

/-! ## What happens -/

variable {ι : Type}

/-- What happens: an instance reads the file, or replaces it by one that holds items, or is through
with an operation. -/
inductive Event (ι : Type) where
  | read (i : ι) (seen : Except Fault Items)
  | replaced (i : ι) (items : Items)
  | ended (i : ι) (op : Operation) (response : Response)

/-- What stands in the file after an event. -/
def Event.after (standing : Items) : Event ι → Items
  | .replaced _ items => items
  | .read _ _ | .ended _ _ _ => standing

/-- What stands in the file after all events: what was last put there. -/
def standing (initial : Items) (log : List (Event ι)) : Items :=
  log.foldl Event.after initial

/-- An event as it should be where items stand: a read sees them as a whole, a replacement leaves all of
them but the token, and an operation gives what it gives on them. -/
def Event.Fits (standing : Items) : Event ι → Prop
  | .read _ seen => seen = .ok standing
  | .replaced _ items => items.SameBut tokenName standing
  | .ended _ op response => response = .ok (op.answer standing)

/-- All events are as they should be where they happen. -/
def Fit (initial : Items) : List (Event ι) → Prop
  | [] => True
  | e :: rest => e.Fits initial ∧ Fit (e.after initial) rest

/-- The operations that are over, with their responses, in the order in which they ended. -/
def ended (log : List (Event ι)) : List (ι × Operation × Response) :=
  log.filterMap fun
    | .ended i op response => some (i, op, response)
    | .read _ _ | .replaced _ _ => none

/-- The operations of an instance that are over. -/
def endedBy [DecidableEq ι] (i : ι) (log : List (Event ι)) : List Operation :=
  ((ended log).filter fun e => e.1 = i).map (·.2.1)

variable {initial : Items} {log : List (Event ι)}

theorem standing_append (log' : List (Event ι)) :
    standing initial (log ++ log') = standing (standing initial log) log' :=
  List.foldl_append

theorem fit_append {log' : List (Event ι)} :
    Fit initial (log ++ log') ↔ Fit initial log ∧ Fit (standing initial log) log' := by
  induction log generalizing initial with
  | nil => exact ⟨fun fit => ⟨trivial, fit⟩, fun fit => fit.2⟩
  | cons e rest ih =>
    show _ ∧ Fit _ (rest ++ log') ↔ (_ ∧ _) ∧ _
    rw [ih, and_assoc]
    rfl

/-- Whoever replaces the file leaves what it held at the beginning, but for the token. -/
theorem Fit.sameBut (fit : Fit initial log) : (standing initial log).SameBut tokenName initial := by
  induction log generalizing initial with
  | nil => exact .refl tokenName initial
  | cons e rest ih =>
    obtain ⟨here, others⟩ := fit
    have after : (e.after initial).SameBut tokenName initial := by
      cases e with
      | read | ended => exact .refl tokenName initial
      | replaced i items => exact here
    exact (ih others).trans after

theorem Fit.of_mem (fit : Fit initial log)
    {front back : List (Event ι)} {e : Event ι} (here : log = front ++ e :: back) :
    e.Fits (standing initial front) ∧ (e.after (standing initial front)).SameBut tokenName initial := by
  rw [here, fit_append] at fit
  obtain ⟨before, fits, -⟩ := fit
  refine ⟨fits, ?_⟩
  cases e with
  | read | ended => exact before.sameBut
  | replaced i items => exact (show items.SameBut tokenName _ from fits).trans before.sameBut

theorem ended_append (log' : List (Event ι)) : ended (log ++ log') = ended log ++ ended log' :=
  List.filterMap_append

theorem endedBy_append [DecidableEq ι] (i : ι) (log' : List (Event ι)) :
    endedBy i (log ++ log') = endedBy i log ++ endedBy i log' := by
  rw [endedBy, ended_append, List.filter_append, List.map_append]
  rfl

/-! ## One after the other -/

section InOrder

variable {path : FilePath} {files : FileTree}

/-- The operations that are over, done one after the other on the file as it was at the beginning, in
the order in which they ended, have the responses that they had, and leave the items that stand. -/
structure InOrder (path : FilePath) (files : FileTree) (initial : Items) (log : List (Event ι))
    (seq : FileTree) (items : Items) : Prop where
  served : Operation.serveAll ⟨.file path, files⟩ ((ended log).map (·.2.1)) =
    ((ended log).map (·.2.2), ⟨.file path, seq⟩)
  contents : Contents seq path items
  same : items.Same (standing initial log)

theorem Operation.serve_of_contents {items : Items} (h : Contents files path items)
    (op : Operation) (usable : Replaceable files path ∨
      op.request.plan (.ok items) = .answer (.ok (op.request.answer items))) :
    ∃ files', op.serve ⟨.file path, files⟩ = (.ok (op.answer items), ⟨.file path, files'⟩) ∧
      Updated path files items files' (op.request.apply items) := by
  obtain ⟨files', served, updated⟩ := Storage.serve_of_contents h op.request usable
  refine ⟨files', ?_, updated⟩
  rw [op.serve_eq, served]
  rfl

/-- One more operation in order. -/
theorem InOrder.concat {seq : FileTree} {items : Items} {i : ι} {op : Operation}
    (tail : List (Event ι)) (h : InOrder path files initial log seq items)
    (usable : Replaceable seq path ∨
      op.request.plan (.ok items) = .answer (.ok (op.request.answer items)))
    (tail_ended : ended tail = [(i, op, .ok (op.answer items))])
    (left : (op.request.apply items).Same (standing initial (log ++ tail))) :
    ∃ seq', InOrder path files initial (log ++ tail) seq' (op.request.apply items) ∧
      Updated path seq items seq' (op.request.apply items) := by
  obtain ⟨seq', served, updated⟩ := op.serve_of_contents h.contents usable
  refine ⟨seq', ⟨?_, updated.contents h.contents, left⟩, updated⟩
  rw [ended_append, tail_ended, List.map_append, List.map_append]
  show Operation.serveAll _ (_ ++ [op]) = (_ ++ [Except.ok (op.answer items)], _)
  rw [Operation.serveAll_concat, h.served]
  simp only [served]

end InOrder

end AdminPanel.Session
