import AdminPanel.Proofs.Page.Login
import AdminPanel.Proofs.Panel.Sharing

/-!
# When a login can replace a session

The call of a login is sent as every other call is, with the token of the session that it is to
replace. So where storages can be read and written, a login that the server grants goes through
exactly if there is no token or a header can carry the one that is there (`login_replaces`). Not every
token that can be stored is such a token: one with a line break bars all logins, until it is cleared
(`login_barred`).

* **`Usable`** — a storage that can be read and written. It stays usable whatever a panel does
  (`usable_run`).
* **`Sendable`** — the token of a storage, if there is one, can be carried by a header.
-/

namespace AdminPanel

namespace Storage

open Json (Members.find? Members.insert Members.erase)

/-- A storage in memory, or one in a file that stands for items and can be replaced. -/
inductive Usable : Store → Prop
  | memory (items : Items) (files : FileTree) : Usable ⟨.memory items, files⟩
  | file (path : FilePath) (files : FileTree) (items : Items) (h : Contents files path items)
      (again : Replaceable files path) : Usable ⟨.file path, files⟩

namespace Usable

variable {s s' : Store} {name value : String}

theorem place_ne_keychain (h : Usable s) : s.place ≠ .keychain := by
  cases h <;> simp

theorem get (h : Usable s) (name : String) : ∃ v, s.get name = .ok v := by
  cases h with
  | memory items files => exact ⟨_, rfl⟩
  | file path files items h again => exact ⟨_, Store.get_of_contents h name⟩

theorem set (h : Usable s) (name value : String) : ∃ s', s.set name value = .ok s' ∧ Usable s' := by
  cases h with
  | memory items files => exact ⟨_, rfl, .memory _ files⟩
  | file path files items h again =>
    rcases Store.set_of_contents h name value with ⟨f, -, stuck⟩ | ⟨files', done, updated⟩
    · exact absurd again stuck
    · exact ⟨_, done, .file path files' _ (updated.contents h) (updated.replaceable again)⟩

theorem remove (h : Usable s) (name : String) : ∃ s', s.remove name = .ok s' ∧ Usable s' := by
  cases h with
  | memory items files => exact ⟨_, rfl, .memory _ files⟩
  | file path files items h again =>
    rcases Store.remove_of_contents h name with ⟨f, -, stuck⟩ | ⟨files', done, updated, -⟩
    · exact absurd again stuck
    · exact ⟨_, done, .file path files' _ (updated.contents h) (updated.replaceable again)⟩

theorem of_set (h : Usable s) (done : s.set name value = .ok s') : Usable s' := by
  obtain ⟨s'', same, usable⟩ := h.set name value
  rw [done] at same
  cases same
  exact usable

theorem of_remove (h : Usable s) (done : s.remove name = .ok s') : Usable s' := by
  obtain ⟨s'', same, usable⟩ := h.remove name
  rw [done] at same
  cases same
  exact usable

theorem of_start (h : Usable s) {token : String} (done : Session.start s token = .ok s') :
    Usable s' :=
  h.of_set (Session.start_eq_ok_iff.mp done).2

end Usable

end Storage

namespace Panel

open Rpc
open Page (Clock AuthCall Granted authRequest)
open Storage (Usable Store)

variable {clock : Clock} {p : Panel} {s : Step}

/-! ## Usable storages stay usable -/

theorem usable_step (usable : Usable p.line.store) (own : s.Own) :
    Usable (p.step clock s).2.line.store := by
  generalize hstore : (p.step clock s).2.line.store = store'
  have stores : s.Stores p.line.store store' := hstore ▸ (step_cases clock p s).stores
  cases stores with
  | same => exact usable
  | setToken t h => exact usable.of_start h
  | clearToken h => exact usable.of_remove h
  | setItem name value h => exact usable.of_set h
  | removeItem name h => exact usable.of_remove h
  | files change => exact absurd rfl (own change)
  | login account password token h => exact usable.of_start h
  | logout h => exact usable.of_remove h

theorem usable_run (steps : List Step) (own : ∀ s ∈ steps, s.Own) (usable : Usable p.line.store) :
    Usable (p.run clock steps).2.line.store := by
  induction steps generalizing p with
  | nil => exact usable
  | cons s rest ih =>
    obtain ⟨here, others⟩ := List.forall_mem_cons.mp own
    exact ih others (usable_step usable here)

/-- Nothing that a panel does changes the way to its server. -/
theorem transport_run (clock : Clock) (p : Panel) (steps : List Step) :
    (p.run clock steps).2.line.transport = p.line.transport := by
  induction steps generalizing p with
  | nil => rfl
  | cons s rest ih =>
    obtain ⟨mid, extends_, left⟩ := (step_cases clock p s).calls
    have first : (p.step clock s).2.line.transport = p.line.transport := by
      rw [left]
      exact extends_.transport
    exact (ih (p.step clock s).2).trans first

/-! ## Logging in again -/

/-- A header can carry the token of a storage, if there is one. -/
def Sendable (s : Store) : Prop :=
  ∀ t, Session.token s = .ok (some t) → (bearer t).toList.all isHeaderChar

/-- What a call says that cannot carry its token. -/
def unsendable : Status := ⟨.unauthenticated, "stored token is not a valid header value", []⟩

theorem attach_of_sendable {s : Store} (usable : Usable s) (sendable : Sendable s) :
    ∃ headers, attach s [] = .ok headers := by
  obtain ⟨v, read⟩ := usable.get Session.tokenName
  unfold attach
  cases token : Session.token s with
  | error e =>
    rw [Session.token_eq_error_iff.mp token] at read
    cases read
  | ok found =>
    cases found with
    | none => exact ⟨[], rfl⟩
    | some t =>
      refine ⟨Headers.set [] authorization (bearer t), ?_⟩
      show (if (bearer t).toList.all isHeaderChar then _ else _) = _
      rw [if_pos (sendable t token)]

theorem attach_of_unsendable {s : Store} {t : String} (token : Session.token s = .ok (some t))
    (invalid : ¬ (bearer t).toList.all isHeaderChar) : attach s [] = .error unsendable := by
  unfold attach
  rw [token]
  show (if (bearer t).toList.all isHeaderChar then _ else _) = _
  rw [if_neg invalid]
  rfl

section Login

variable {account password path : String} {l : Line}

/-- A login goes through over a storage whose token can be sent. -/
theorem runOn_login_of_sendable (usable : Usable l.store) (sendable : Sendable l.store)
    (complete : Text.trim account ≠ "" ∧ password ≠ "")
    (hpath : l.transport.methodPath Method.auth.service.name Method.auth.name = .ok path)
    {response : Message.AuthResponse} (granted : Granted l response) (token : response.token ≠ "") :
    ∃ c l', runOn (Page.login account password) l = (.ok response.id, l') ∧
      AuthCall l account password c ∧ l'.calls = l.calls ++ [c] ∧
      Session.token l'.store = .ok (some response.token) := by
  -- the call can be made, as the token of before is a header value
  obtain ⟨headers, attached⟩ := attach_of_sendable usable sendable
  obtain ⟨body, bodies, ending, peer, hreply, good, read⟩ := granted.reply
  have means : (Reply.messages (body :: bodies) ending).result Method.auth = .ok response :=
    Reply.result_eq_ok_iff.mpr ⟨body, bodies, ending, rfl, good, read⟩
  -- the grant can be kept, as the storage is usable
  obtain ⟨store, written, -⟩ := usable.set Session.tokenName response.token
  have start : Session.start l.store response.token = .ok store :=
    Session.start_eq_ok_iff.mpr ⟨token, written⟩
  have there := (Page.started start usable.place_ne_keychain (usable.get _)).2.1
  have asked := runOn_unary_of_reply (authRequest account password) hpath attached hreply
  rw [means] at asked
  have ran : runOn (Page.login account password) l = (.ok response.id, { l with
      store := store
      peer := peer
      calls := l.calls ++ [⟨path, headers.values authorization,
        Method.auth.request.write (authRequest account password)⟩] }) := by
    rw [Page.runOn_login_of_complete complete, asked]
    simp only [start]
  have call : AuthCall l account password ⟨path, headers.values authorization,
      Method.auth.request.write (authRequest account password)⟩ :=
    ⟨⟨hpath, credited_of_attach attached _ _⟩, rfl⟩
  exact ⟨_, _, ran, call, rfl, there⟩

/-- A login over a storage whose token cannot be sent does nothing and fails. -/
theorem runOn_login_of_unsendable (barred : ¬ Sendable l.store)
    (complete : Text.trim account ≠ "" ∧ password ≠ "")
    (hpath : l.transport.methodPath Method.auth.service.name Method.auth.name = .ok path) :
    runOn (Page.login account password) l =
      (.error (.rpc (.authentication unsendable.message)), l) := by
  obtain ⟨t, barred⟩ := not_forall.mp barred
  obtain ⟨stored, invalid⟩ := Classical.not_imp.mp barred
  rw [Page.runOn_login_of_complete complete,
    runOn_unary_of_refused hpath (attach_of_unsendable stored invalid)]
  rfl

end Login

/-- **When a login can replace a session.** Let a panel have done anything over a storage that could be
read and written, and let the server then grant a login with a token. If the token that is stored, if
any, can be carried by a header, the login makes its one call, succeeds, and leaves the new token.
If not, no call is made, the login fails as if the server had refused it, and the session that was to
be replaced stays. -/
theorem login_replaces (clock : Clock) (p : Panel) (steps : List Step) (own : ∀ s ∈ steps, s.Own)
    (usable : Usable p.line.store) {account password path : String}
    (complete : Text.trim account ≠ "" ∧ password ≠ "")
    (hpath : p.line.transport.methodPath Method.auth.service.name Method.auth.name = .ok path)
    {response : Message.AuthResponse} (token : response.token ≠ "")
    {q : Panel} (reached : (p.run clock steps).2 = q) (granted : Granted q.line response) :
    (Sendable q.line.store → ∃ c l', q.step clock (.login account password) =
        (.ok (.number response.id), { q with line := l' }) ∧
      AuthCall q.line account password c ∧ l'.calls = q.line.calls ++ [c] ∧
      Session.token l'.store = .ok (some response.token)) ∧
    (¬ Sendable q.line.store → q.step clock (.login account password) =
      (.error (.login (.rpc (.authentication unsendable.message))), q)) := by
  have usable' : Usable q.line.store := by
    rw [← reached]
    exact usable_run steps own usable
  have hpath' : q.line.transport.methodPath Method.auth.service.name Method.auth.name = .ok path := by
    rw [← reached, transport_run]
    exact hpath
  rw [step, onLine_eq]
  constructor
  · intro sendable
    obtain ⟨c, l', ran, call, issued, there⟩ :=
      runOn_login_of_sendable usable' sendable complete hpath' granted token
    rw [ran]
    exact ⟨c, l', rfl, call, issued, there⟩
  · intro barred
    rw [runOn_login_of_unsendable barred complete hpath']
    rfl

/-- A session in a file that was missing is replaced by a login. -/
theorem login_replaces_file :
    let p : Panel := ⟨⟨⟨.file ["s.json"], {}⟩, ⟨"http://h", ⟨"http", "h", ""⟩⟩,
      .scripted [("Auth", [.messages
        [Message.AuthResponse.layout.write { id := 42, token := "new" }] (.status .ok "")])], []⟩,
      none, none⟩
    ∃ q, (p.run default [.setToken "old"]).2 = q ∧
      Session.token q.line.store = .ok (some "old") ∧
      Session.token (q.step default (.login "a" "b")).2.line.store = .ok (some "new") := by
  intro p
  -- the state is named and only its token and its peer are evaluated: the files in it are large terms
  generalize reached : (p.run default [.setToken "old"]).2 = q
  have old : Session.token q.line.store = .ok (some "old") := by
    rw [← reached]
    decide +kernel
  have own : ∀ s ∈ [Step.setToken "old"], s.Own := by
    intro s hs change
    rintro rfl
    simp at hs
  have usable : Usable p.line.store :=
    .file ["s.json"] {} [] (.absent (by decide)) ⟨{}, rfl, fun bytes => ⟨_, rfl⟩⟩
  have path : p.line.transport.methodPath Method.auth.service.name Method.auth.name =
      .ok "/service.auth.v1.AuthService/Auth" := by decide +kernel
  have answers : (p.run default [.setToken "old"]).2.line.peer = p.line.peer := rfl
  have read : Message.AuthResponse.layout.read
      (Message.AuthResponse.layout.write { id := 42, token := "new" }) =
        .ok { id := 42, token := "new" } := by decide +kernel
  have granted : Granted q.line { id := 42, token := "new" } := by
    refine ⟨_, [], .status .ok "", p.line.peer, ?_, rfl, read⟩
    rw [← reached, answers]
    rfl
  have sendable : Sendable q.line.store := by
    intro t stored
    rw [old] at stored
    cases stored
    decide
  have complete : Text.trim "a" ≠ "" ∧ "b" ≠ "" := by decide
  obtain ⟨replaces, -⟩ := login_replaces default p [.setToken "old"] own usable complete path
    (by decide) reached granted
  obtain ⟨c, l', ended, -, -, there⟩ := replaces sendable
  refine ⟨q, rfl, old, ?_⟩
  rw [ended]
  exact there

/-- A token with a line break is stored, and then no login goes through: the server would grant it, but
no call is made, and the token stays. -/
theorem login_barred :
    let p : Panel := ⟨⟨⟨.memory [], {}⟩, ⟨"http://h", ⟨"http", "h", ""⟩⟩,
      .scripted [("Auth", [.messages
        [Message.AuthResponse.layout.write { id := 42, token := "tok-1" }] (.status .ok "")])], []⟩,
      none, none⟩
    let r := p.run default [.setToken "a\nb", .login "a" "b", .token]
    r.1 = [.ok .done,
      .error (.login (.rpc (.authentication "stored token is not a valid header value"))),
      .ok (.text (some "a\nb"))] ∧ r.2.line.calls = [] :=
  ⟨rfl, rfl⟩

end Panel

end AdminPanel
