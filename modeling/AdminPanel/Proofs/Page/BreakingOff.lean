import AdminPanel.Page.Attempt
import AdminPanel.Proofs.Page.Login
import AdminPanel.Proofs.Storage.Attempts

/-!
# What a failed write leaves

Whatever is undertaken with a storage file — an item is put, removed or asked for, a session is begun or
ended, someone logs in — and whichever step of it the system refuses: if it fails, every file is where it
was with the bytes that it had, and nothing is new but directories above the storage file
(`LeftAlone`). What cannot be read as items fails all of it, and is never overwritten.

## The architecture

* **`LoginSteps`** — the way that an attempted login takes; what is shown of one goes by its cases.
* **`Ends`** — how an attempt of an `Undertaking` ends: its `run` is what the panel does, and its `attempt` is
  the same as far as it comes in given conditions.
* **`ends_attempt`** — an attempt that succeeds is what the panel does, and one that fails makes
  directories at most. **`attempt_of_calm`** — where nothing is refused, what comes of it is the same, too.
* **`attempt_of_bars`** — where nothing can be read, an attempt fails and changes nothing.
* **`failed_writes_leave_files`** — the same of attempts in a row, by induction on them.
-/

namespace AdminPanel.Page

open Rpc
open FileTree (parentPath GrownTo)
open Session (tokenName)
open Storage (Store Conditions Request Response OnlyGrown)

/-! ## What fails -/

theorem Outcome.not_failed_storage (v : Option String) : ¬ (Outcome.storage (.ok v)).Failed := by
  rintro ⟨e, failed⟩
  cases failed

theorem Outcome.not_failed_login (id : UInt64) : ¬ (Outcome.login (.ok id)).Failed := by
  rintro ⟨e, failed⟩
  cases failed

instance (o : Outcome) : Decidable o.Failed :=
  match o with
  | .storage (.error e) => .isTrue ⟨e, rfl⟩
  | .storage (.ok v) => .isFalse (Outcome.not_failed_storage v)
  | .login (.error e) => .isTrue ⟨e, rfl⟩
  | .login (.ok id) => .isFalse (Outcome.not_failed_login id)

namespace Undertaking

/-! ## An attempt that succeeds is what the panel does -/

variable {asking storing : Conditions} {path : FilePath} {l : Line} {d : Undertaking}

/-- A call over the items of a storage file is the call over the file. -/
theorem runOn_unary_of_seen {items : Storage.Items} (m : Method α β) (request : α)
    (place : l.store.place = .file path)
    (read : Storage.readItems l.store.files path = .ok items) :
    runOn (unary m request) l =
      ((runOn (unary m request) { l with store := ⟨.memory items, l.store.files⟩ }).1,
        { (runOn (unary m request) { l with store := ⟨.memory items, l.store.files⟩ }).2 with
          store := l.store }) := by
  have token : Session.token l.store = Session.token ⟨.memory items, l.store.files⟩ := by
    have store : (⟨.file path, l.store.files⟩ : Store) = l.store := by rw [← place]
    rw [← store, Session.token, Store.get_file, read]
    rfl
  exact (asks_unary m request).sees { l with store := ⟨.memory items, l.store.files⟩ } l.store token

/-- Beginning a session is putting an item, if there is a token. -/
theorem settle_start (s : Store) (token : String) :
    s.settle (Session.start s token) =
      if token.isEmpty then (.error .emptyToken, s) else s.serve (.set tokenName token) := by
  unfold Session.start
  split <;> rfl

theorem startAttempt_cases (w : Conditions) (path : FilePath) (files : FileTree) (token : String) :
    Storage.AttemptCases w path files
      (Store.settle ⟨.file path, files⟩ (Session.start ⟨.file path, files⟩ token))
      (startAttempt w path files token) := by
  rw [settle_start, startAttempt]
  split
  · exact .failed _ files fun _ => .refl path files
  · exact Storage.attempt_cases (.set tokenName token) w path files

/-- The way that an attempted login takes: it lacks an account or a password, its token cannot be read, its call
fails, or the call is granted and the new token is put in place as far as that comes. -/
inductive LoginSteps (asking storing : Conditions) (path : FilePath) (l : Line) (account password : String) :
    Except LoginFault UInt64 × Line → Prop where
  | incomplete (f : LoginFault) (whole : runOn (Page.login account password) l = (.error f, l)) :
      LoginSteps asking storing path l account password (.error f, l)
  | unread (e : Storage.Fault) (complete : Text.trim account ≠ "" ∧ password ≠ "")
      (read : asking.readItems l.store.files path = .error e) :
      LoginSteps asking storing path l account password (.error (.rpc (unsent l e)), l)
  | refused (items : Storage.Items) (f : Failure) (l' : Line)
      (complete : Text.trim account ≠ "" ∧ password ≠ "")
      (read : asking.readItems l.store.files path = .ok items)
      (called : runOn (unary .auth (authRequest account password))
        { l with store := ⟨.memory items, l.store.files⟩ } = (.error f, l')) :
      LoginSteps asking storing path l account password (.error (.rpc f), { l' with store := l.store })
  | granted (items : Storage.Items) (response : Message.AuthResponse) (l' : Line) (stored : Response × FileTree)
      (complete : Text.trim account ≠ "" ∧ password ≠ "")
      (read : asking.readItems l.store.files path = .ok items)
      (called : runOn (unary .auth (authRequest account password))
        { l with store := ⟨.memory items, l.store.files⟩ } = (.ok response, l'))
      (begun : startAttempt storing path l.store.files response.token = stored) :
      LoginSteps asking storing path l account password
        ((stored.1.map fun _ => response.id).mapError .storage, { l' with store := ⟨.file path, stored.2⟩ })

theorem loginAttempt_steps (asking storing : Conditions) (path : FilePath) (l : Line)
    (account password : String) :
    LoginSteps asking storing path l account password
      (loginAttempt asking storing path l account password) := by
  have whole := runOn_login account password l
  unfold loginAttempt
  split
  · next none =>
    rw [if_pos none] at whole
    exact .incomplete _ whole
  · next some =>
    rw [if_neg some] at whole
    split
    · next none =>
      rw [if_pos none] at whole
      exact .incomplete _ whole
    · next some' =>
      have complete : Text.trim account ≠ "" ∧ password ≠ "" := ⟨by simpa using some, by simpa using some'⟩
      cases read : asking.readItems l.store.files path with
      | error e => exact .unread e complete read
      | ok items =>
        simp only
        rcases called : runOn (unary .auth (authRequest account password))
          { l with store := ⟨.memory items, l.store.files⟩ } with ⟨f | response, l'⟩
        · exact .refused items f l' complete read called
        · simp only
          rcases begun : startAttempt storing path l.store.files response.token with ⟨e | v, files⟩
          · exact .granted items response l' _ complete read called begun
          · exact .granted items response l' _ complete read called begun

/-- The ways in which an attempted login can end. -/
inductive LoginAttempt (asking storing : Conditions) (path : FilePath) (account password : String)
    (l : Line) : Except LoginFault UInt64 × Line → Prop where
  | failed (f : LoginFault) (l' : Line) (place : l'.store.place = .file path)
      (left : storing.Tidy → OnlyGrown path l.store.files l'.store.files) :
      LoginAttempt asking storing path account password l (.error f, l')
  | done (id : UInt64) (l' : Line) (place : l'.store.place = .file path)
      (same : asking.Sees path l.store.files → storing.Sees path l.store.files →
        runOn (Page.login account password) l = (.ok id, l')) :
      LoginAttempt asking storing path account password l (.ok id, l')

theorem loginAttempt_cases (asking storing : Conditions) (account password : String)
    (place : l.store.place = .file path) :
    LoginAttempt asking storing path account password l
      (loginAttempt asking storing path l account password) := by
  have store : (⟨.file path, l.store.files⟩ : Store) = l.store := by rw [← place]
  have steps := loginAttempt_steps asking storing path l account password
  generalize loginAttempt asking storing path l account password = ended at steps ⊢
  cases steps with
  | incomplete | unread => exact .failed _ l place fun _ => .refl path _
  | refused => exact .failed _ _ place fun _ => .refl path _
  | granted items response l' stored complete read called begun =>
    -- the grant is there; from here on only the writing of the token can fail
    have left := startAttempt_cases storing path l.store.files response.token
    rw [store, begun] at left
    cases left with
    | failed e files' left => exact .failed _ _ rfl left
    | done v files' settled =>
      refine .done _ _ rfl fun sees sees' => ?_
      -- the call is the one of the panel, as the token that it carries has been seen
      rw [runOn_login_of_complete complete,
        runOn_unary_of_seen _ _ place (asking.readItems_of_sees sees read), called]
      have settled := settled sees'
      simp only
      -- the panel starts the same session, or the attempt would not have settled
      cases started : Session.start l.store response.token with
      | error e =>
        rw [started] at settled
        cases settled
      | ok store' =>
        rw [started] at settled
        cases settled
        rfl

/-- How an attempt can end: it fails, and makes directories at most, or it is what the panel does. The
second is so if no file that is there has been missed. -/
structure Ends (asking storing : Conditions) (path : FilePath) (l : Line)
    (whole ended : Outcome × Line) : Prop where
  place : ended.2.store.place = .file path
  cases : ended.1.Failed ∧ (storing.Tidy → OnlyGrown path l.store.files ended.2.store.files) ∨
    ¬ ended.1.Failed ∧
      (asking.Sees path l.store.files → storing.Sees path l.store.files → whole = ended)

theorem ends_of_attemptCases {whole : Response × Store} {left : Response × FileTree}
    (asking : Conditions) (ended : Storage.AttemptCases storing path l.store.files whole left) :
    Ends asking storing path l (served l whole) (servedFiles l path left) := by
  refine ⟨rfl, ?_⟩
  cases ended with
  | failed e files' left => exact .inl ⟨⟨e, rfl⟩, left⟩
  | done v files' same =>
    refine .inr ⟨Outcome.not_failed_storage v, fun _ sees => ?_⟩
    rw [same sees]
    rfl

/-- **An attempt that succeeds is what the panel does**, and one that fails makes directories at
most. -/
theorem ends_attempt (asking storing : Conditions) (d : Undertaking)
    (place : l.store.place = .file path) :
    Ends asking storing path l (d.run l) (d.attempt asking storing path l) := by
  have store : (⟨.file path, l.store.files⟩ : Store) = l.store := by rw [← place]
  -- the first three touch the storage only and go by the inversion of a request; a login has its own
  cases d with
  | item r =>
    have ended := Storage.attempt_cases r storing path l.store.files
    rw [store] at ended
    exact ends_of_attemptCases asking ended
  | start token =>
    have ended := startAttempt_cases storing path l.store.files token
    rw [store] at ended
    exact ends_of_attemptCases asking ended
  | finish =>
    have ended := Storage.attempt_cases (.remove tokenName) storing path l.store.files
    rw [store] at ended
    exact ends_of_attemptCases asking ended
  | login account password =>
    have ended := loginAttempt_cases asking storing account password place
    unfold attempt run
    simp only
    generalize loginAttempt asking storing path l account password = left at ended ⊢
    cases ended with
    | failed f l' place' left => exact ⟨place', .inl ⟨⟨f, rfl⟩, left⟩⟩
    | done id l' place' same =>
      refine ⟨place', .inr ⟨Outcome.not_failed_login id, fun sees sees' => ?_⟩⟩
      rw [same sees sees']

/-! ## Where nothing is refused -/

/-- A call whose token cannot be read is not sent, and fails as an attempt says. -/
theorem runOn_unary_unsent {e : Storage.Fault} (request : Message.AuthRequest)
    (unread : l.store.get tokenName = .error e) :
    runOn (unary .auth request) l = (.error (unsent l e), l) := by
  unfold unsent
  cases hpath : l.transport.methodPath Method.auth.service.name Method.auth.name with
  | error s =>
    have refused : runOn (send .auth request) l = (.error (.ofStatus s), l) := by
      unfold send
      simp only [runOn_bind, runOn_get, hpath]
      rfl
    rw [runOn_unary, refused]
  | ok where' =>
    refine runOn_unary_of_refused hpath ?_
    rw [attach, Session.token_eq_error_iff.mpr unread]

theorem startAttempt_of_calm {w : Conditions} {files : FileTree} (calm : w.Calm path files)
    (token : String) :
    (startAttempt w path files token).1 =
      (Store.settle ⟨.file path, files⟩ (Session.start ⟨.file path, files⟩ token)).1 := by
  rw [settle_start, startAttempt]
  split
  · rfl
  · exact calm.attempt _

/-- A login asks over a storage that can be read, and stores the token in one that can be written. -/
theorem loginAttempt_of_calm (calm : asking.Calm path l.store.files)
    (calm' : storing.Calm path l.store.files) (place : l.store.place = .file path)
    (account password : String) :
    (loginAttempt asking storing path l account password).1 = (runOn (Page.login account password) l).1 := by
  have store : (⟨.file path, l.store.files⟩ : Store) = l.store := by rw [← place]
  have steps := loginAttempt_steps asking storing path l account password
  generalize loginAttempt asking storing path l account password = ended at steps
  cases steps with
  | incomplete f whole => rw [whole]
  | unread e complete read =>
    -- a token that cannot be read stops the call before it is made, in the panel too
    rw [calm.readItems] at read
    have unread : l.store.get tokenName = .error e := by
      rw [← store, Store.get_file, read]
    rw [runOn_login_of_complete complete, runOn_unary_unsent _ unread]
  | refused items f l' complete read called =>
    rw [calm.readItems] at read
    rw [runOn_login_of_complete complete, runOn_unary_of_seen _ _ place read, called]
  | granted items response l' stored complete read called begun =>
    rw [calm.readItems] at read
    rw [runOn_login_of_complete complete, runOn_unary_of_seen _ _ place read, called]
    -- only results are compared: the files differ by the temporary one while the token is written
    have same := startAttempt_of_calm calm' response.token
    rw [store, begun] at same
    simp only [same]
    cases Session.start l.store response.token <;> rfl

/-- **Where nothing is refused, what comes of an attempt is what comes of it at the panel.** -/
theorem attempt_of_calm (calm : asking.Calm path l.store.files)
    (calm' : storing.Calm path l.store.files) (place : l.store.place = .file path)
    (d : Undertaking) : (d.attempt asking storing path l).1 = (d.run l).1 := by
  have store : (⟨.file path, l.store.files⟩ : Store) = l.store := by rw [← place]
  cases d with
  | item r =>
    have same := calm'.attempt r
    rw [store] at same
    exact congrArg Outcome.storage same
  | start token =>
    have same := startAttempt_of_calm calm' token
    rw [store] at same
    exact congrArg Outcome.storage same
  | finish =>
    have same := calm'.attempt (.remove tokenName)
    rw [store] at same
    exact congrArg Outcome.storage same
  | login account password =>
    exact congrArg Outcome.login (loginAttempt_of_calm calm calm' place account password)

/-! ## Where nothing can be read -/

theorem startAttempt_of_bars {w : Conditions} {files : FileTree} (bars : w.Bars path files)
    (token : String) : ∃ e, startAttempt w path files token = (.error e, files) := by
  unfold startAttempt
  split
  · exact ⟨_, rfl⟩
  · exact bars.attempt _

/-- **What cannot be read is never overwritten.** -/
theorem attempt_of_bars (asking : Conditions) (bars : storing.Bars path l.store.files)
    (place : l.store.place = .file path) (d : Undertaking) :
    (d.attempt asking storing path l).1.Failed ∧
      (d.attempt asking storing path l).2.store = l.store := by
  have store : (⟨.file path, l.store.files⟩ : Store) = l.store := by rw [← place]
  have served {left : Response × FileTree} (failed : ∃ e, left = (.error e, l.store.files)) :
      (servedFiles l path left).1.Failed ∧ (servedFiles l path left).2.store = l.store := by
    obtain ⟨e, rfl⟩ := failed
    exact ⟨⟨e, rfl⟩, store⟩
  cases d with
  | item r => exact served (bars.attempt r)
  | start token => exact served (startAttempt_of_bars bars token)
  | finish => exact served (bars.attempt _)
  | login account password =>
    have steps := loginAttempt_steps asking storing path l account password
    unfold attempt
    simp only
    generalize loginAttempt asking storing path l account password = ended at steps
    cases steps with
    | incomplete | unread | refused => exact ⟨⟨_, rfl⟩, rfl⟩
    | granted items response l' stored complete read called begun =>
      -- the token was read before; the one that is granted cannot be kept
      obtain ⟨e, failed⟩ := startAttempt_of_bars bars response.token
      obtain rfl := begun.symm.trans failed
      exact ⟨⟨_, rfl⟩, store⟩

end Undertaking

/-! ## Attempts in a row -/

variable {path : FilePath} {l : Line}

theorem onlyGrown_attemptAll (attempts : List Attempt) (place : l.store.place = .file path)
    (tidy : ∀ a ∈ attempts, a.storing.Tidy)
    (failed : ∀ o ∈ (attemptAll path l attempts).1, o.Failed) :
    OnlyGrown path l.store.files (attemptAll path l attempts).2.store.files := by
  -- induction on the attempts
  induction attempts generalizing l with
  | nil => exact .refl path _
  | cons a rest ih =>
    have ended := a.undertaking.ends_attempt a.asking a.storing place
    have first : (a.undertaking.attempt a.asking a.storing path l).1.Failed :=
      failed _ List.mem_cons_self
    rcases ended.cases with ⟨-, left⟩ | ⟨done, -⟩
    · refine (left (tidy a List.mem_cons_self)).trans (ih ended.place ?_ ?_)
      · exact fun b within => tidy b (List.mem_cons_of_mem _ within)
      · exact fun o within => failed o (List.mem_cons_of_mem _ within)
    · exact absurd first done

theorem attemptAll_of_bars (attempts : List Attempt) (place : l.store.place = .file path)
    (bars : ∀ a ∈ attempts, a.storing.Bars path l.store.files) :
    (∀ o ∈ (attemptAll path l attempts).1, o.Failed) ∧
      (attemptAll path l attempts).2.store = l.store := by
  -- induction on the attempts; each leaves the storage as it was, so that the next is barred, too
  induction attempts generalizing l with
  | nil => exact ⟨fun o within => absurd within List.not_mem_nil, rfl⟩
  | cons a rest ih =>
    obtain ⟨first, kept⟩ := Undertaking.attempt_of_bars a.asking (bars a List.mem_cons_self) place
      a.undertaking
    have place' := place
    rw [← kept] at place'
    have bars' : ∀ b ∈ rest, b.storing.Bars path
        (a.undertaking.attempt a.asking a.storing path l).2.store.files := by
      intro b within
      rw [kept]
      exact bars b (List.mem_cons_of_mem _ within)
    obtain ⟨others, kept'⟩ := ih place' bars'
    refine ⟨fun o within => ?_, kept'.trans kept⟩
    rcases List.mem_cons.mp within with rfl | within
    · exact first
    · exact others o within

/-! ## What failures leave -/

/-- The files around a storage file are left alone: every file is where it was, with its bytes, and there
is no other; all that may be new are directories that were missing on the way to the directory around the
storage file, and a beginning of that way leads to each of them. If the directory around the storage file
is there, nothing is new at all.

If the path leads down, then in a tree without loose nodes the entries of that directory are the same, too,
and whoever asks for an item is told what he would have been told before, in whichever conditions he asks.
A path that leads up again out of a directory that has to be made first does not: `new/../s.json` leads to
the file beside `new` only once `new` has been made. -/
structure LeftAlone (path : FilePath) (t t' : FileTree) : Prop where
  files : ∀ q f, t'.node? q = some (.file f) ↔ t.node? q = some (.file f)
  directories : GrownTo (parentPath path) t t'
  parents : ∀ q, t'.node? q ≠ t.node? q →
    ∃ front, front <+: parentPath path ∧ t'.walk [] front = .ok (q, .directory)
  rooted : t.Rooted → t'.Rooted
  there : (∃ d, t.walk [] (parentPath path) = .ok (d, .directory)) → t' = t
  entries : t.Rooted → t.LeadsDown path → t'.names (parentPath path) = t.names (parentPath path)
  items : t.Rooted → t.LeadsDown path →
    ∀ name, Store.get ⟨.file path, t'⟩ name = Store.get ⟨.file path, t⟩ name
  asked : t.Rooted → t.LeadsDown path → ∀ (w : Conditions) (name : String),
    ((Request.get name).attempt w path t').1 = ((Request.get name).attempt w path t).1

theorem leftAlone_of_onlyGrown {t t' : FileTree} (h : OnlyGrown path t t') : LeftAlone path t t' where
  files _ _ := h.grown.node?_file_iff
  directories := h.grown
  parents _ new := h.grown.reached new
  rooted := h.grown.rooted
  there := h.there
  entries rooted down := h.names_eq rooted down
  items rooted down := h.get_eq rooted down
  asked rooted down := h.attempt_get_eq rooted down

end AdminPanel.Page
