import AdminPanel.Proofs.Message.RoundTrip
import AdminPanel.Proofs.Page.Asking
import AdminPanel.Proofs.Rpc.Answering
import AdminPanel.Proofs.Storage.Laws

/-!
# Logging in is all or nothing

A login ends in one of four ways (`login_cases`): something is missing, and nothing has happened; its
call fails; its call succeeds and the token cannot be stored; or the token is stored. Only the last
one changes the storage, and it changes nothing there but the token (`login_all_or_nothing`).
-/

namespace AdminPanel.Page

open Rpc
open Message (AuthRequest AuthResponse)
open Session (tokenName)

variable {account password : String} {l l' : Line}

/-! ## What is asked -/

/-- The server reads what was asked: the password as it is, and the account without the blanks around
it, as an address or as an identifier. -/
theorem read_write_authRequest
    (short : (AuthRequest.layout.write (authRequest account password)).length < 2 ^ 64) :
    AuthRequest.layout.read (AuthRequest.layout.write (authRequest account password)) =
      .ok (authRequest account password) := by
  have lawful : AuthRequest.layout.Lawful (Wire.maxDepth + 1) :=
    Message.declared_lawful ⟨_, AuthRequest.layout⟩ (by simp [Message.declared])
  exact Wire.Layout.read_write lawful _ short

/-- The call of a login. -/
structure AuthCall (l : Line) (account password : String) (c : Call) : Prop where
  made : Made l Method.auth.endpoint c
  body : c.body = AuthRequest.layout.write (authRequest account password)

/-- The peer answers a login with a message that can be read, and with a good status. -/
structure Granted (l : Line) (response : AuthResponse) : Prop where
  reply : ∃ body bodies ending peer,
    l.peer.answer Method.auth.name = (some (.messages (body :: bodies) ending), peer) ∧
    ending.code = .ok ∧ AuthResponse.layout.read body = .ok response

/-! ## How a login can end -/

/-- The ways in which a login can end. -/
inductive LoginCases (account password : String) (l : Line) :
    Except LoginFault UInt64 × Line → Prop where
  | noAccount (none : Text.trim account = "") :
      LoginCases account password l (.error (.missingField "account"), l)
  | noPassword (some : Text.trim account ≠ "") (none : password = "") :
      LoginCases account password l (.error (.missingField "password"), l)
  | failed (f : Failure) (l' : Line) (complete : Text.trim account ≠ "" ∧ password ≠ "")
      (store : l'.store = l.store)
      (calls : l'.calls = l.calls ∨ ∃ c, l'.calls = l.calls ++ [c] ∧ AuthCall l account password c) :
      LoginCases account password l (.error (.rpc f), l')
  | unstored (response : AuthResponse) (e : Storage.Fault) (l' : Line)
      (complete : Text.trim account ≠ "" ∧ password ≠ "") (store : l'.store = l.store)
      (call : ∃ c, l'.calls = l.calls ++ [c] ∧ AuthCall l account password c) :
      LoginCases account password l (.error (.storage e), l')
  | stored (response : AuthResponse) (l' : Line)
      (complete : Text.trim account ≠ "" ∧ password ≠ "") (granted : Granted l response)
      (readable : ∃ v, l.store.get tokenName = .ok v)
      (store : Session.start l.store response.token = .ok l'.store)
      (call : ∃ c, l'.calls = l.calls ++ [c] ∧ AuthCall l account password c) :
      LoginCases account password l (.ok response.id, l')

/-- Whoever could make a call could read the token. -/
theorem readable_of_attach {s : Storage.Store} {h headers : Headers} (ok : attach s h = .ok headers) :
    ∃ v, s.get tokenName = .ok v := by
  cases read : s.get tokenName with
  | ok v => exact ⟨v, rfl⟩
  | error e =>
    rw [attach, Session.token_eq_error_iff.mpr read] at ok
    cases ok

theorem login_cases (account password : String) (l : Line) :
    LoginCases account password l (runOn (login account password) l) := by
  rw [runOn_login]
  split
  · next none => exact .noAccount (by simpa using none)
  · next some =>
    have someAccount : Text.trim account ≠ "" := by simpa using some
    split
    · next none => exact .noPassword someAccount (by simpa using none)
    · next some' =>
      have complete : Text.trim account ≠ "" ∧ password ≠ "" := ⟨someAccount, by simpa using some'⟩
      have asked := unary_cases .auth (authRequest account password) l
      generalize runOn (unary .auth (authRequest account password)) l = r at asked ⊢
      cases asked with
      | unsent f => exact .failed f l complete rfl (.inl rfl)
      | answered path headers reply peer hpath h hreply =>
        -- the call is recorded, whatever the reply means
        have call : AuthCall l account password
            ⟨path, headers.values authorization, Method.auth.request.write
              (authRequest account password)⟩ :=
          ⟨⟨hpath, credited_of_attach h _ _⟩, rfl⟩
        cases means : reply.result Method.auth with
        | error f => exact .failed f _ complete rfl (.inr ⟨_, rfl, call⟩)
        | ok response =>
          obtain ⟨body, bodies, ending, rfl, good, read⟩ := Reply.result_eq_ok_iff.mp means
          simp only
          cases start : Session.start l.store response.token with
          | error e => exact .unstored response e _ complete rfl ⟨_, rfl, call⟩
          | ok store =>
            exact .stored response _ complete ⟨body, bodies, ending, peer, hreply, good, read⟩
              (readable_of_attach h) start ⟨_, rfl, call⟩

/-- What is sent to exchange a password for a token. -/
def loginBody (account password : String) : List UInt8 :=
  AuthRequest.layout.write (authRequest account password)

/-- The password of a login shows in the body of its call and nowhere else. -/
theorem login_password {password password' : String} (account : String) (full : password ≠ "")
    (full' : password' ≠ "") (l : Line) :
    let r := runOn (login account password) l
    runOn (login account password') l = r ∨
    ∃ c : Call, r.2.calls = l.calls ++ [c] ∧ c.body = loginBody account password ∧
      runOn (login account password') l =
        (r.1, { r.2 with calls := l.calls ++ [{ c with body := loginBody account password' }] }) := by
  have some : password.isEmpty = false := by simpa using full
  have some' : password'.isEmpty = false := by simpa using full'
  simp only
  rw [runOn_login, runOn_login, some, some']
  split
  · exact .inl rfl
  · simp only [Bool.false_eq_true, ↓reduceIte]
    -- the two requests differ, so the two calls differ at most in their bodies
    rcases unary_body Method.auth (authRequest account password) (authRequest account password') l with
      same | ⟨result, peer, c, left, right⟩
    · rw [same]
      exact .inl rfl
    · rw [left, right]
      cases result with
      | error f => exact .inr ⟨_, rfl, rfl, rfl⟩
      | ok response =>
        simp only
        cases Session.start l.store response.token with
        | error e => exact .inr ⟨_, rfl, rfl, rfl⟩
        | ok store => exact .inr ⟨_, rfl, rfl, rfl⟩

/-! ## All or nothing -/

/-- What starting a session does to a storage that can be read: the token is there, and nothing else
is changed. -/
theorem started {s s' : Storage.Store} {token : String} (start : Session.start s token = .ok s')
    (place : s.place ≠ .keychain) (readable : ∃ v, s.get tokenName = .ok v) :
    token ≠ "" ∧ Session.token s' = .ok (some token) ∧
      ∀ name, name ≠ tokenName → s'.get name = s.get name := by
  obtain ⟨full, set⟩ := Session.start_eq_ok_iff.mp start
  obtain ⟨v, readable⟩ := readable
  have there := Storage.Store.get_set_of_readable set place readable
  refine ⟨full, Session.token_eq_some_iff.mpr ⟨there, full⟩, ?_⟩
  intro name ne
  exact Storage.Store.get_set_of_ne set ne

/-- **Logging in is all or nothing**, for every account and password, every storage but a keychain of
which there is none, and every peer.

Without an account or a password, the account looked at first, nothing happens at all. Otherwise at
most one call is made, and the server reads in it the password as it is and the account without the
blanks around it, as an address if it has an at sign and as an identifier otherwise; the bytes of the
call are one vector, and no vector is longer than a word of 64 bits can count. A login succeeds only
if the call did, with a token that is then the token of the session, and changes nothing else in the
storage; a login that fails leaves the storage as it was. -/
theorem login_all_or_nothing (account password : String) (l : Line)
    (place : l.store.place ≠ .keychain) {result : Except LoginFault UInt64} {l' : Line}
    (h : runOn (login account password) l = (result, l')) :
    (Text.trim account = "" → result = .error (.missingField "account") ∧ l' = l) ∧
    (Text.trim account ≠ "" → password = "" →
      result = .error (.missingField "password") ∧ l' = l) ∧
    (l'.calls = l.calls ∨ ∃ c, l'.calls = l.calls ++ [c] ∧ Made l Method.auth.endpoint c ∧
      (c.body.length < 2 ^ 64 → AuthRequest.layout.read c.body = .ok
        { account := some (if (Text.trim account).toList.contains '@' then
            .email (Text.trim account) else .ocid (Text.trim account))
          password := password })) ∧
    (∀ id, result = .ok id → ∃ c response, l'.calls = l.calls ++ [c] ∧ Granted l response ∧
      id = response.id ∧ response.token ≠ "" ∧
      Session.token l'.store = .ok (some response.token) ∧
      ∀ name, name ≠ tokenName → l'.store.get name = l.store.get name) ∧
    (∀ f, result = .error f → l'.store = l.store) := by
  have ended := login_cases account password l
  rw [h] at ended
  have body {c : Call} (call : AuthCall l account password c) : Made l Method.auth.endpoint c ∧
      (c.body.length < 2 ^ 64 → AuthRequest.layout.read c.body = .ok
        { account := some (if (Text.trim account).toList.contains '@' then
            .email (Text.trim account) else .ocid (Text.trim account))
          password := password }) := by
    refine ⟨call.made, fun short => ?_⟩
    rw [call.body] at short ⊢
    exact read_write_authRequest short
  -- the five ways out of a login, in the order of the code; only the last one writes
  cases ended with
  | noAccount none =>
    refine ⟨fun _ => ⟨rfl, rfl⟩, fun some => absurd none some, .inl rfl, ?_, fun _ _ => rfl⟩
    intro id ok
    cases ok
  | noPassword some none =>
    refine ⟨fun none => absurd none some, fun _ _ => ⟨rfl, rfl⟩, .inl rfl, ?_, fun _ _ => rfl⟩
    intro id ok
    cases ok
  | failed f l' complete store calls =>
    refine ⟨fun none => absurd none complete.1, fun _ none => absurd none complete.2, ?_, ?_,
      fun _ _ => store⟩
    · rcases calls with same | ⟨c, issued, call⟩
      · exact .inl same
      · exact .inr ⟨c, issued, body call⟩
    · intro id ok
      cases ok
  | unstored response e l' complete store call =>
    obtain ⟨c, issued, call⟩ := call
    refine ⟨fun none => absurd none complete.1, fun _ none => absurd none complete.2,
      .inr ⟨c, issued, body call⟩, ?_, fun _ _ => store⟩
    intro id ok
    cases ok
  | stored response l' complete granted readable store call =>
    obtain ⟨c, issued, call⟩ := call
    refine ⟨fun none => absurd none complete.1, fun _ none => absurd none complete.2,
      .inr ⟨c, issued, body call⟩, ?_, ?_⟩
    · intro id ok
      cases ok
      -- what was started is read back, and no other item is touched
      exact ⟨c, response, issued, granted, rfl, started store place readable⟩
    · intro f failed
      cases failed

/-- A login with blanks around the account, at a peer that grants it: the token is that of the answer,
and what else is stored stays. -/
theorem login_all_or_nothing_granted :
    let l : Line := ⟨⟨.memory [("theme", "dark")], {}⟩, ⟨"http://h", ⟨"http", "h", ""⟩⟩,
      .scripted [("Auth", [.messages [AuthResponse.layout.write { id := 7, token := "t" }]
        (.status .ok "")])], []⟩
    ∃ response, Granted l response ∧ response.id = 7 ∧
      Session.token (runOn (login " a@b " "pw") l).2.store = .ok (some response.token) ∧
      (runOn (login " a@b " "pw") l).2.store.get "theme" = .ok (some "dark") := by
  intro l
  have memory : l.store.place ≠ .keychain := by decide
  have ok : (runOn (login " a@b " "pw") l).1 = .ok 7 := by decide +kernel
  generalize run : runOn (login " a@b " "pw") l = r at ok ⊢
  obtain ⟨result, l'⟩ := r
  obtain ⟨-, -, -, granted, -⟩ := login_all_or_nothing " a@b " "pw" l memory run
  obtain ⟨c, response, -, granted, id, -, token, others⟩ := granted 7 ok
  refine ⟨response, granted, id.symm, token, ?_⟩
  rw [others "theme" (by decide)]
  rfl

end AdminPanel.Page
