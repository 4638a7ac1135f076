import AdminPanel.Rpc.Line

/-!
# The shared registry

A registry ties a transport to a session. A process shares one: whoever asks first builds it, and
all others are given that one, whatever they ask for. Of several callers who find the place empty
at the same time, the first to put a registry there wins.
-/

namespace AdminPanel.Rpc

open Storage (Store)

/-- A transport and the storage of the session that goes with it. -/
structure Registry where
  transport : Transport
  store : Store
  deriving Repr, DecidableEq

/-- A registry over a transport to an address. It is made if the transport can be made. -/
def Registry.new (address : String) (store : Store) (hasRoots : Bool) :
    Except Address.Fault Registry := do
  return ⟨← Transport.new address hasRoots, store⟩

/-- The place of the shared registry, which a process has once and for all. -/
abbrev Cell := Option Registry

namespace Cell

/-- Puts something in a place unless there is something, and gives what is there. -/
def install (cell : Option α) (a : α) : α × Option α :=
  match cell with
  | some present => (present, cell)
  | none => (a, some a)

/-- The shared registry; if there is none, one is built from the caller's address and session. A caller whose
address is no good leaves the place empty, so that the next one may try. -/
def shared (cell : Cell) (address : String) (store : Store) (hasRoots : Bool) :
    Except Address.Fault Registry × Cell :=
  match cell with
  | some present => (.ok present, cell)
  | none =>
    match Registry.new address store hasRoots with
    | .error e => (.error e, none)
    | .ok r =>
      -- another caller may have filled the place by now, and then that one's registry is given
      let (present, cell) := install none r
      (.ok present, cell)

end Cell

end AdminPanel.Rpc
