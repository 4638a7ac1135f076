import AdminPanel.Proofs.Panel.Stepping
import AdminPanel.Proofs.Storage.Laws

/-!
# Which credential a call carries, over whole runs

The token is read at the moment a call is made, and nothing else remembers it. So what a call
carries is decided by the storage at that moment, however the panel came there: by logins and
logouts, by writes to single items, or by other programs writing to the same file.

## The architecture

* **`Withheld`** — a storage that gives no credential, so that no call is made at all
  (`send_of_withheld`).
* **`Panel.record`** — the calls of a run, each with the storage from which it was made.
* **`OnlyToken P`** — the invariant of a revocation: whatever token can be read satisfies `P`. One
  step keeps it unless it stores another token (`onlyToken_step`), and from it follows what a
  whole run sends (`satisfies_of_mem_record`).
* **`credentials_of_run`** — the three put together.
-/

namespace AdminPanel.Rpc

open Storage (Store)
open Session (tokenName)

variable {α β : Type}

/-- A storage that gives no credential: it cannot be read, or no header can hold its token. -/
def Withheld (s : Store) : Prop :=
  (∃ e, s.get tokenName = .error e) ∨
    ∃ t, s.get tokenName = .ok (some t) ∧ t ≠ "" ∧ ¬ (bearer t).toList.all isHeaderChar

theorem Withheld.not_credited {s : Store} (h : Withheld s) (c : Call) : ¬ Credited s c := by
  intro credited
  rcases h with ⟨e, unreadable⟩ | ⟨t, stored, nonempty, invalid⟩
  · cases credited with
    | token t stored => simp [unreadable] at stored
    | nothing absent => simp [unreadable] at absent
  · cases credited with
    | token t' stored' _ valid =>
      rw [stored'] at stored
      cases stored
      exact invalid valid
    | nothing absent => simp [stored, nonempty] at absent

/-- Making a call either leaves the line as it is, or records this one call with the credential of
the storage. -/
theorem send_records (m : Method α β) (request : α) (l : Line) :
    (runOn (send m request) l).2 = l ∨ ∃ peer c, Credited l.store c ∧
      (runOn (send m request) l).2 = { l with peer := peer, calls := l.calls ++ [c] } := by
  generalize hr : runOn (send m request) l = r
  have ending : Sent m request l r := hr ▸ send_cases m request l
  cases ending with
  | badPath => exact .inl rfl
  | refused => exact .inl rfl
  | unreachable => exact .inl rfl
  | sent path headers reply peer hpath h hreply =>
    exact .inr ⟨peer, _, credited_of_attach h path _, rfl⟩

theorem send_of_withheld (m : Method α β) (request : α) {l : Line} (h : Withheld l.store) :
    (runOn (send m request) l).2 = l := by
  rcases send_records m request l with same | ⟨peer, c, credited, -⟩
  · exact same
  · exact absurd credited (h.not_credited c)

theorem bearer_injective {t t' : String} (h : bearer t = bearer t') : t = t' := by
  have chars := congrArg String.toList h
  unfold bearer at chars
  rw [String.toList_append, String.toList_append] at chars
  exact String.ext (List.append_cancel_left chars)

end AdminPanel.Rpc

namespace AdminPanel.Panel

open Rpc
open Storage (Store)
open Session (tokenName)
open Page (Clock)

variable {clock : Clock} {p : Panel} {s : Step}

/-! ## The calls of a run -/

/-- A call, and the storage from which it was made. -/
structure Issued where
  store : Store
  call : Call

/-- The calls of a run. -/
def record (clock : Clock) (p : Panel) : List Step → List Issued
  | [] => []
  | s :: rest =>
    let after := (p.step clock s).2
    (after.line.calls.drop p.line.calls.length).map (fun c => ⟨p.line.store, c⟩)
      ++ after.record clock rest

/-- The calls of one step come behind the earlier ones, each with its credential. -/
theorem step_calls (clock : Clock) (p : Panel) (s : Step) :
    ∃ issued, (p.step clock s).2.line.calls = p.line.calls ++ issued ∧
      ∀ c ∈ issued, Credited p.line.store c := by
  obtain ⟨-, mid, hmid, hline⟩ := step_cases clock p s
  obtain ⟨issued, hcalls, -, hmade⟩ := hmid.exists_issued
  refine ⟨issued, by rw [hline]; exact hcalls, ?_⟩
  intro c hc
  obtain ⟨e, -, made⟩ := hmade c hc
  exact made.credited

/-- A run records the calls of its steps, in their order. -/
theorem run_calls (clock : Clock) (p : Panel) (steps : List Step) :
    (p.run clock steps).2.line.calls = p.line.calls ++ (p.record clock steps).map (·.call) := by
  -- induction on the steps; the record drops what the panel has recorded before each of them
  induction steps generalizing p with
  | nil => simp [run, record]
  | cons s rest ih =>
    obtain ⟨issued, hcalls, -⟩ := step_calls clock p s
    show ((p.step clock s).2.run clock rest).2.line.calls = _
    rw [ih, hcalls, record]
    simp [hcalls, Function.comp_def]

/-- Every call of a run carries the credential of the storage from which it was made. -/
theorem credited_of_mem_record {steps : List Step} {i : Issued} (h : i ∈ p.record clock steps) :
    Credited i.store i.call := by
  induction steps generalizing p with
  | nil => cases h
  | cons s rest ih =>
    obtain ⟨issued, hcalls, hcredited⟩ := step_calls clock p s
    rw [record, hcalls, List.drop_left] at h
    rcases List.mem_append.mp h with here | later
    · obtain ⟨c, hc, rfl⟩ := List.mem_map.mp here
      exact hcredited c hc
    · exact ih later

theorem step_of_withheld (h : Withheld p.line.store) :
    (p.step clock s).2.line.calls = p.line.calls := by
  obtain ⟨issued, hcalls, hcredited⟩ := step_calls clock p s
  have none : issued = [] :=
    List.eq_nil_iff_forall_not_mem.mpr fun c hc => h.not_credited c (hcredited c hc)
  rw [hcalls, none, List.append_nil]

/-! ## Revoked tokens -/

/-- Whatever token can be read satisfies a property. -/
def OnlyToken (P : String → Prop) (store : Store) : Prop :=
  ∀ t, store.get tokenName = .ok (some t) → P t

/-- A step that stores a token only if it satisfies a property. What a login stores is the
server's choice and what another program writes is its own, so of these the outcome counts. -/
def Step.Admits (P : String → Prop) (clock : Clock) (p : Panel) : Step → Prop
  | .setToken t => P t
  | .setItem name value => name = tokenName → P value
  | .login account password => OnlyToken P (p.step clock (.login account password)).2.line.store
  | .files change => OnlyToken P (p.step clock (.files change)).2.line.store
  | _ => True

/-- A run of such steps. -/
def Admits (P : String → Prop) (clock : Clock) (p : Panel) : List Step → Prop
  | [] => True
  | s :: rest => s.Admits P clock p ∧ (p.step clock s).2.Admits P clock rest

theorem onlyToken_of_start {P : String → Prop} {store store' : Store} {t : String}
    (h : Session.start store t = .ok store') (ht : P t) : OnlyToken P store' := by
  intro t' read
  rw [Storage.Store.get_set_self (Session.start_eq_ok_iff.mp h).2 read]
  exact ht

theorem onlyToken_of_finish (P : String → Prop) {store store' : Store}
    (h : Session.finish store = .ok store') : OnlyToken P store' :=
  fun t read => absurd read (Storage.Store.get_remove_self h t)

/-- One step keeps what is known of the token, unless it stores another. -/
theorem onlyToken_step {P : String → Prop} (h : OnlyToken P p.line.store)
    (admits : s.Admits P clock p) : OnlyToken P (p.step clock s).2.line.store := by
  generalize hstore : (p.step clock s).2.line.store = store'
  have stores : s.Stores p.line.store store' := hstore ▸ (step_cases clock p s).stores
  cases stores with
  | same => exact h
  | setToken t hstart => exact onlyToken_of_start hstart admits
  | clearToken hfinish => exact onlyToken_of_finish P hfinish
  | setItem name value hset =>
    intro t read
    -- an item of the name of the token is a token, any other leaves the token as it is
    by_cases same : tokenName = name
    · rw [same] at read
      rw [Storage.Store.get_set_self hset read]
      exact admits same.symm
    · rw [Storage.Store.get_set_of_ne hset same] at read
      exact h t read
  | removeItem name hremove =>
    intro t read
    by_cases same : tokenName = name
    · rw [same] at read
      exact absurd read (Storage.Store.get_remove_self hremove t)
    · rw [Storage.Store.get_remove_of_ne hremove same] at read
      exact h t read
  -- here the outcome itself is admitted
  | files change store hchange =>
    rw [← hstore]
    exact admits
  | login account password token hstart =>
    rw [← hstore]
    exact admits
  | logout hfinish => exact onlyToken_of_finish P hfinish

/-- From there on, every call of a run carries a token with the property, or none. -/
theorem satisfies_of_mem_record {P : String → Prop} {steps : List Step} {i : Issued}
    (h : OnlyToken P p.line.store) (admits : p.Admits P clock steps)
    (hi : i ∈ p.record clock steps) :
    i.call.credentials = [] ∨ ∃ t, P t ∧ i.call.credentials = [bearer t] := by
  induction steps generalizing p with
  | nil => cases hi
  | cons s rest ih =>
    obtain ⟨issued, hcalls, hcredited⟩ := step_calls clock p s
    rw [record, hcalls, List.drop_left] at hi
    rcases List.mem_append.mp hi with here | later
    · obtain ⟨c, hc, rfl⟩ := List.mem_map.mp here
      cases hcredited c hc with
      | token t stored nonempty valid sent => exact .inr ⟨t, h t stored, sent⟩
      | nothing absent sent => exact .inl sent
    · exact ih (onlyToken_step h admits.1) admits.2 later

/-- A step that takes a token out of use. -/
def Step.Revokes (old : String) : Step → Prop
  | .setToken t => t ≠ old
  | .clearToken => True
  | .logout => True
  | _ => False

/-- After a token has been taken out of use, it cannot be read. -/
theorem onlyToken_of_revokes {old : String} (revokes : s.Revokes old)
    (succeeds : (p.step clock s).1 = .ok .done) :
    OnlyToken (· ≠ old) (p.step clock s).2.line.store := by
  cases s with
  | setToken t =>
    rw [step] at succeeds ⊢
    cases h : Session.start p.line.store t with
    | error e => simp [h, onStore] at succeeds
    | ok store => exact onlyToken_of_start h revokes
  | clearToken =>
    rw [step] at succeeds ⊢
    cases h : Session.finish p.line.store with
    | error e => simp [h, onStore] at succeeds
    | ok store => exact onlyToken_of_finish _ h
  | logout =>
    rw [step_logout] at succeeds ⊢
    cases h : Session.finish p.line.store with
    | error e => simp [h, onStore] at succeeds
    | ok store => exact onlyToken_of_finish _ h
  | _ => exact absurd revokes id

/-- **The calls of a run are sent with the credential of the moment.**

Whatever panel the run starts from and whatever steps it takes: the calls that arrive are those of
the record, each with the one credential that its storage gives; a storage that withholds the
credential lets no call through; no call is made but by `send`, which reads the storage of its
line; and a token that has been taken out of use is never sent again, unless it is stored again. -/
theorem credentials_of_run (clock : Clock) (p : Panel) (steps : List Step) :
    (p.run clock steps).2.line.calls = p.line.calls ++ (p.record clock steps).map (·.call) ∧
    (∀ i ∈ p.record clock steps, Credited i.store i.call) ∧
    (∀ s, Withheld (p.run clock steps).2.line.store →
      ((p.run clock steps).2.step clock s).2.line.calls = (p.run clock steps).2.line.calls) ∧
    (∀ {α β : Type} (m : Method α β) (request : α) (l : Line),
      (Withheld l.store → (runOn (send m request) l).2 = l) ∧
      ((runOn (send m request) l).2 = l ∨ ∃ peer c, Credited l.store c ∧
        (runOn (send m request) l).2 = { l with peer := peer, calls := l.calls ++ [c] })) ∧
    (∀ (old : String) (s : Step) (later : List Step), s.Revokes old →
      ((p.run clock steps).2.step clock s).1 = .ok .done →
      ((p.run clock steps).2.step clock s).2.Admits (· ≠ old) clock later →
      ∀ i ∈ ((p.run clock steps).2.step clock s).2.record clock later,
        i.call.credentials ≠ [bearer old]) := by
  refine ⟨run_calls clock p steps, fun i hi => credited_of_mem_record hi,
    fun s h => step_of_withheld h,
    fun m request l => ⟨send_of_withheld m request, send_records m request l⟩, ?_⟩
  intro old s later revokes succeeds admits i hi sent
  -- once the token is out of use, whatever is sent later is another one, or none
  have only := onlyToken_of_revokes revokes succeeds
  rcases satisfies_of_mem_record only admits hi with none | ⟨t, different, sent'⟩
  · rw [none] at sent
    cases sent
  · rw [sent] at sent'
    exact different (bearer_injective (List.cons.inj sent').1).symm

/-- A panel in memory whose token is replaced between two calls: the first call carries the old
token, the second the new one. -/
theorem credentials_of_run_replaced :
    let p : Panel := ⟨⟨⟨.memory [("token", "old")], {}⟩, ⟨"http://h", ⟨"http", "h", ""⟩⟩,
      .scripted [], []⟩, none, none⟩
    let q := ((p.run default [.unban 7]).2.step default (.setToken "new")).2
    q.line.calls.map (·.credentials) = [["Bearer old"]] ∧
      (q.record default [.unban 8]).map (·.call.credentials) = [["Bearer new"]] ∧
      ∀ i ∈ q.record default [.unban 8], i.call.credentials ≠ [bearer "old"] := by
  refine ⟨by decide, by decide, ?_⟩
  have different : ("new" : String) ≠ "old" := by decide
  exact (credentials_of_run default _ [.unban 7]).2.2.2.2 "old" (.setToken "new") [.unban 8]
    different rfl ⟨trivial, trivial⟩

end AdminPanel.Panel
