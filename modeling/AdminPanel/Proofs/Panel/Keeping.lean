import AdminPanel.Proofs.Page.Login
import AdminPanel.Proofs.Panel.Stepping
import AdminPanel.Settings.Basic

/-!
# How long a token is kept

A token that has been stored is read until it is replaced or cleared, and after it has been cleared
none is read until one is stored again (`stored_token_lasts`). So it is in memory and in a file, whatever
the panel does in between, as long as nobody else writes to the file or to the item of the token. A
keychain of which there is none acknowledges a token and has lost it (`stored_token_lost`).

* **`Storage.Place.Keeps`** — a place that keeps what is written: memory or a file.
* **`Step.Spares`** — a step that does not touch the token, or has failed.
-/

namespace AdminPanel

namespace Storage

/-- The place without what it holds. -/
def Place.emptied : Place → Place
  | .memory _ => .memory []
  | .file path => .file path
  | .keychain => .keychain
  | .refusing refusals _ => .refusing refusals []

/-- A place in which what has been written can be read. -/
inductive Place.Keeps : Place → Prop
  | memory (items : Items) : Keeps (.memory items)
  | file (path : FilePath) : Keeps (.file path)

theorem Place.keeps_congr {place place' : Place} (same : place.emptied = place'.emptied)
    (keeps : place.Keeps) : place'.Keeps := by
  cases keeps with
  | memory items =>
    cases place' with
    | memory items' => exact .memory items'
    | file | keychain | refusing => cases same
  | file path =>
    cases place' with
    | file path' => exact .file path'
    | memory | keychain | refusing => cases same

theorem Place.eq_keychain {place : Place} (same : place.emptied = Place.keychain.emptied) :
    place = .keychain := by
  cases place with
  | keychain => rfl
  | memory | file | refusing => cases same

namespace Store

variable {s s' : Store} {name value : String}

theorem emptied_of_set (h : s.set name value = .ok s') : s'.place.emptied = s.place.emptied := by
  obtain ⟨place, files⟩ := s
  cases place with
  | memory items =>
    cases h
    rfl
  | file path =>
    obtain ⟨items, files', -, rfl, -⟩ := contents_of_set h
    rfl
  | keychain =>
    cases h
    rfl
  | refusing refusals items =>
    obtain ⟨-, rfl⟩ := set_refusing_eq_ok_iff.mp h
    rfl

theorem emptied_of_remove (h : s.remove name = .ok s') : s'.place.emptied = s.place.emptied := by
  obtain ⟨place, files⟩ := s
  cases place with
  | memory items =>
    cases h
    rfl
  | file path =>
    obtain ⟨items, files', -, rfl, -⟩ := contents_of_remove h
    rfl
  | keychain =>
    cases h
    rfl
  | refusing refusals items =>
    obtain ⟨-, rfl⟩ := remove_refusing_eq_ok_iff.mp h
    rfl

theorem emptied_of_start {token : String} (h : Session.start s token = .ok s') :
    s'.place.emptied = s.place.emptied :=
  emptied_of_set (Session.start_eq_ok_iff.mp h).2

/-- A write to a file that succeeds has read the file before, so that it can be read again. -/
theorem get_of_set (keeps : s.place.Keeps) (h : s.set name value = .ok s') :
    s'.get name = .ok (some value) := by
  obtain ⟨place, files⟩ := s
  cases keeps with
  | memory items =>
    exact get_set_of_readable h (by simp) rfl
  | file path =>
    obtain ⟨items, -, contents, -, -⟩ := contents_of_set h
    exact get_set_of_readable h (by simp) (get_of_contents contents name)

theorem get_of_remove (keeps : s.place.Keeps) (h : s.remove name = .ok s') :
    s'.get name = .ok none := by
  have gone := get_remove_self h
  obtain ⟨place, files⟩ := s
  cases keeps with
  | memory items =>
    cases h
    simp [get]
  | file path =>
    obtain ⟨items, files', -, rfl, contents⟩ := contents_of_remove h
    rw [get_of_contents contents, Json.Members.find?_erase_self]

end Store

end Storage

namespace Panel

open Rpc
open Storage (Store)
open Page (Clock)
open Session (tokenName)

variable {clock : Clock} {p : Panel} {s : Step}

/-! ## Steps that leave the token alone -/

/-- **A step that fails leaves the storage as it was.** -/
theorem step_store_of_error {f : Fault} (failed : (p.step clock s).1 = .error f) :
    (p.step clock s).2.line.store = p.line.store := by
  generalize hstore : (p.step clock s).2.line.store = store'
  have stores : s.Stores p.line.store store' := hstore ▸ (step_cases clock p s).stores
  -- whatever has changed the storage has succeeded, which its answer would show
  cases stores with
  | same => rfl
  | setToken t h =>
    rw [step, h] at failed
    cases failed
  | clearToken h =>
    rw [step, h] at failed
    cases failed
  | setItem name value h =>
    rw [step, h] at failed
    cases failed
  | removeItem name h =>
    rw [step, h] at failed
    cases failed
  | files change store h =>
    rw [step, h] at failed
    cases failed
  | logout h =>
    rw [step_logout, h] at failed
    cases failed
  | login account password token h =>
    -- a login whose answer cannot be stored fails as well, over the storage as it was
    rw [← hstore, step, answer_snd, onLine_eq]
    rw [step, onLine_eq] at failed
    have ended := Page.login_cases account password p.line
    generalize runOn (Page.login account password) p.line = r at ended failed
    cases ended with
    | noAccount | noPassword => rfl
    | failed _ _ _ store => exact store
    | unstored _ _ _ _ store => exact store
    | stored => cases failed

/-- A step with its answer leaves the token alone: it has failed, or it is none that writes the
token. -/
def Step.Spares (s : Step) (a : Except Fault Answer) : Prop :=
  (∃ f, a = .error f) ∨
    match s with
    | .setToken _ | .clearToken | .login .. | .logout | .files _ => False
    | .setItem name _ | .removeItem name => name ≠ tokenName
    | _ => True

theorem get_of_spares (spares : s.Spares (p.step clock s).1) :
    (p.step clock s).2.line.store.get tokenName = p.line.store.get tokenName := by
  rcases spares with ⟨f, failed⟩ | other
  · rw [step_store_of_error failed]
  · generalize hstore : (p.step clock s).2.line.store = store'
    have stores : s.Stores p.line.store store' := hstore ▸ (step_cases clock p s).stores
    cases stores with
    | same => rfl
    | setItem name value h => exact Store.get_set_of_ne h (Ne.symm other)
    | removeItem name h => exact Store.get_remove_of_ne h (Ne.symm other)
    | setToken | clearToken | files | login | logout => exact absurd other id

/-- Every step of a run leaves the token alone. -/
def Spared (clock : Clock) (p : Panel) : List Step → Prop
  | [] => True
  | s :: rest => s.Spares (p.step clock s).1 ∧ Spared clock (p.step clock s).2 rest

theorem get_of_spared {steps : List Step} (spared : Spared clock p steps) :
    (p.run clock steps).2.line.store.get tokenName = p.line.store.get tokenName := by
  induction steps generalizing p with
  | nil => rfl
  | cons s rest ih => exact (ih spared.2).trans (get_of_spares spared.1)

/-! ## What a panel keeps its items in -/

theorem emptied_step (clock : Clock) (p : Panel) (s : Step) :
    (p.step clock s).2.line.store.place.emptied = p.line.store.place.emptied := by
  generalize hstore : (p.step clock s).2.line.store = store'
  have stores : s.Stores p.line.store store' := hstore ▸ (step_cases clock p s).stores
  cases stores with
  | same | files => rfl
  | setToken t h => exact Store.emptied_of_start h
  | login account password t h => exact Store.emptied_of_start h
  | clearToken h => exact Store.emptied_of_remove h
  | logout h => exact Store.emptied_of_remove h
  | setItem name value h => exact Store.emptied_of_set h
  | removeItem name h => exact Store.emptied_of_remove h

theorem emptied_run (clock : Clock) (p : Panel) (steps : List Step) :
    (p.run clock steps).2.line.store.place.emptied = p.line.store.place.emptied := by
  induction steps generalizing p with
  | nil => rfl
  | cons s rest ih => exact (ih (p.step clock s).2).trans (emptied_step clock p s)

/-! ## Storing and clearing -/

theorem step_setToken_empty (clock : Clock) (p : Panel) :
    p.step clock (.setToken "") = (.error (.storage .emptyToken), p) := rfl

/-- Storing a token, if it is done, makes it the token. -/
theorem token_of_setToken {t : String} (keeps : p.line.store.place.Keeps)
    (done : (p.step clock (.setToken t)).1 = .ok .done) :
    Session.token (p.step clock (.setToken t)).2.line.store = .ok (some t) := by
  rw [step] at done ⊢
  cases start : Session.start p.line.store t with
  | error e =>
    rw [start] at done
    cases done
  | ok store =>
    obtain ⟨full, set⟩ := Session.start_eq_ok_iff.mp start
    exact Session.token_eq_some_iff.mpr ⟨Store.get_of_set keeps set, full⟩

theorem token_of_clearToken (keeps : p.line.store.place.Keeps)
    (done : (p.step clock .clearToken).1 = .ok .done) :
    Session.token (p.step clock .clearToken).2.line.store = .ok none := by
  rw [step] at done ⊢
  cases finish : Session.finish p.line.store with
  | error e =>
    rw [finish] at done
    cases done
  | ok store => exact Session.token_eq_none_iff.mpr (.inl (Store.get_of_remove keeps finish))

theorem step_token_of_eq {v : Option String} (token : Session.token p.line.store = .ok v) :
    p.step clock .token = (.ok (.text v), p) := by
  rw [step, token]
  rfl

/-- **How long a token is kept.** Let a panel have done anything over the storage that settings open.
The empty token is refused, and nothing happens. Over memory or a file, a token that could be stored is
read after every run that leaves the token alone, and after the session could be cleared none is read.
Over a keychain every token is acknowledged, and none is read. -/
theorem stored_token_lasts (clock : Clock) (settings : Settings) (path : FilePath) (files : FileTree)
    {p q : Panel} (opened : p.line.store = settings.openStore path files) (before : List Step)
    (reached : (p.run clock before).2 = q) :
    q.step clock (.setToken "") = (.error (.storage .emptyToken), q) ∧
    (settings.backend ≠ .keyring → ∀ (after : List Step) (r : Panel),
      (∀ t, (q.step clock (.setToken t)).1 = .ok .done →
        (q.run clock (.setToken t :: after)).2 = r →
        Spared clock (q.step clock (.setToken t)).2 after →
        r.step clock .token = (.ok (.text (some t)), r)) ∧
      ((q.step clock .clearToken).1 = .ok .done →
        (q.run clock (.clearToken :: after)).2 = r →
        Spared clock (q.step clock .clearToken).2 after →
        r.step clock .token = (.ok (.text none), r))) ∧
    (settings.backend = .keyring → q.step clock .token = (.ok (.text none), q) ∧
      q.step clock .clearToken = (.ok .done, q) ∧
      ∀ t, t ≠ "" → q.step clock (.setToken t) = (.ok .done, q)) := by
  have kind : q.line.store.place.emptied = (settings.openStore path files).place.emptied := by
    rw [← reached, emptied_run, opened]
  refine ⟨step_setToken_empty clock q, ?_, ?_⟩
  · intro other after r
    -- no step moves the items to a place of another kind
    have keeps : q.line.store.place.Keeps := by
      refine Storage.Place.keeps_congr kind.symm ?_
      unfold Settings.openStore
      cases backend : settings.backend with
      | file => exact .file path
      | memory => exact .memory []
      | keyring => exact absurd backend other
    constructor
    · rintro t done rfl spared
      have stored := token_of_setToken keeps done
      have last := get_of_spared spared
      refine step_token_of_eq ?_
      rw [Session.token_eq] at stored ⊢
      exact last ▸ stored
    · rintro done rfl spared
      have cleared := token_of_clearToken keeps done
      have last := get_of_spared spared
      refine step_token_of_eq ?_
      rw [Session.token_eq] at cleared ⊢
      exact last ▸ cleared
  · intro keyring
    have keychain : q.line.store.place = .keychain := by
      refine Storage.Place.eq_keychain (kind.trans ?_)
      rw [Settings.openStore, keyring]
    obtain ⟨⟨⟨place, files'⟩, transport, peer, calls⟩, current, opened'⟩ := q
    obtain rfl : place = .keychain := keychain
    refine ⟨rfl, rfl, fun t full => ?_⟩
    have some : t.isEmpty = false := by simpa using full
    simp only [step, Session.start, some]
    rfl

/-- A token in a file outlives an item of another name and an empty token that is refused. -/
theorem stored_token_lasts_file :
    let p : Panel := ⟨⟨⟨.file ["s.json"], {}⟩, ⟨"http://h", ⟨"http", "h", ""⟩⟩, .unreachable, []⟩,
      none, none⟩
    ((p.run default [.setToken "t", .setItem "theme" "dark", .setToken ""]).2.step default .token).1
      = .ok (.text (some "t")) := by
  intro p
  have done : (p.step default (.setToken "t")).1 = .ok .done := by rfl
  have spared : Spared default (p.step default (.setToken "t")).2
      [.setItem "theme" "dark", .setToken ""] :=
    ⟨.inr (by decide), .inl ⟨_, congrArg Prod.fst (step_setToken_empty default _)⟩, trivial⟩
  obtain ⟨-, keeps, -⟩ :=
    stored_token_lasts default {} ["s.json"] {} (show p.line.store = _ from rfl) [] rfl
  have read := (keeps (by decide) _ _).1 "t" done rfl spared
  exact congrArg Prod.fst read

/-- The token is acknowledged, and it is lost. -/
theorem stored_token_lost :
    let p : Panel := ⟨⟨({ backend := .keyring } : Settings).openStore [] {},
      ⟨"http://h", ⟨"http", "h", ""⟩⟩, .unreachable, []⟩, none, none⟩
    (p.run default [.setToken "t", .token]).1 = [.ok .done, .ok (.text none)] := rfl

end Panel

end AdminPanel
