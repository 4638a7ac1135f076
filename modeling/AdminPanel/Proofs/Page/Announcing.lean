import AdminPanel.Page.Action
import AdminPanel.Proofs.Rpc.Calling

/-!
# Announcing

An announcement is published in the name of the session's account. The server is asked for this account,
then for its number, and then to publish: three calls, of which each needs the answer of the one before.

* **`AnnounceCalls`** — the calls of an announcement, as far as they are made.
* **`announce_in_order`** — they stop at the first that fails, and the announcement succeeds only with the
  last of them.
-/

namespace AdminPanel.Page

open Message
open Rpc

/-! ## The three requests -/

/-- What is published. -/
def announcementBy (publisherId : UInt64) (title content : String) : PublishAnnouncementRequest where
  announcement := some { title := title, content := content, publisherId := publisherId }

theorem faithful_getAccountInfo : Faithful .getAccountInfo {} where
  named := by decide
  declared := by simp [declared, Method.getAccountInfo]
  unsigned := rfl

theorem faithful_getId (ocid : String) : Faithful .getId { ocid := ocid } where
  named := by decide
  declared := by simp [declared, Method.getId]
  unsigned := rfl

theorem faithful_announcementBy (publisherId : UInt64) (title content : String) :
    Faithful .publishAnnouncement (announcementBy publisherId title content) where
  named := by decide
  declared := by simp [declared, Method.publishAnnouncement]
  unsigned := rfl

/-! ## The chain -/

/-- The calls of an announcement, as far as they are made, by the accounts that the server gives for the
session and the publishers that it gives for the account. -/
inductive AnnounceCalls (l : Line) (title content : String) (first : Except Status GetAccountInfoResponse)
    (second : Except Status GetIdResponse) : List Call → Prop where
  | none : AnnounceCalls l title content first second []
  | account {c₁ : Call} (asked : Carries l .getAccountInfo {} c₁) :
    AnnounceCalls l title content first second [c₁]
  | publisher {c₁ c₂ : Call} {account : GetAccountInfoResponse}
      (asked : Carries l .getAccountInfo {} c₁) (known : first = .ok account)
      (asked' : Carries l .getId { ocid := account.ocid } c₂) :
    AnnounceCalls l title content first second [c₁, c₂]
  | published {c₁ c₂ c₃ : Call} {account : GetAccountInfoResponse} {publisher : GetIdResponse}
      (asked : Carries l .getAccountInfo {} c₁) (known : first = .ok account)
      (asked' : Carries l .getId { ocid := account.ocid } c₂) (known' : second = .ok publisher)
      (sent : Carries l .publishAnnouncement
        { announcement := some { title := title, content := content, publisherId := publisher.id } } c₃) :
    AnnounceCalls l title content first second [c₁, c₂, c₃]

/-- How three calls end one after the other, of which the last gives a number. -/
def announceOutcome (first : Except Status GetAccountInfoResponse) (second : Except Status GetIdResponse)
    (third : Except Status PublishAnnouncementResponse) : Except Status UInt64 :=
  first.bind fun _ => second.bind fun _ => third.map (·.id)

section Outcome

variable {first : Except Status GetAccountInfoResponse} {second : Except Status GetIdResponse}
  {third : Except Status PublishAnnouncementResponse}

/-- All three have succeeded. -/
theorem announceOutcome_eq_ok_iff {id : UInt64} :
    (announceOutcome first second third).mapError Failure.ofStatus = .ok id ↔
      ∃ account publisher published, first = .ok account ∧ second = .ok publisher ∧
        third = .ok published ∧ published.id = id := by
  cases first <;> cases second <;> cases third <;>
    simp [announceOutcome, Except.bind, Except.map, Except.mapError]

/-- One has failed, and those in front of it have not. -/
theorem announceOutcome_eq_error_iff {f : Failure} :
    (announceOutcome first second third).mapError Failure.ofStatus = .error f ↔
      ∃ status, .ofStatus status = f ∧ (first = .error status ∨
        (∃ account, first = .ok account ∧ second = .error status) ∨
        ∃ account publisher, first = .ok account ∧ second = .ok publisher ∧ third = .error status) := by
  cases first <;> cases second <;> cases third <;>
    simp [announceOutcome, Except.bind, Except.map, Except.mapError]

end Outcome

/-- The calls of an announcement, and how it ends, call by call. -/
theorem makes_announce {address : String} {hasRoots : Bool} {l : Line}
    (dialed : Transport.new address hasRoots = .ok l.transport) (title content : String) :
    let first := outcomeAt l.store l.peer .getAccountInfo
    let second := outcomeAt l.store (l.peer.answer "GetAccountInfo").2 .getId
    let third := outcomeAt l.store ((l.peer.answer "GetAccountInfo").2.answer "GetId").2
      .publishAnnouncement
    Makes l (fun result calls => result = (announceOutcome first second third).mapError .ofStatus ∧
        AnnounceCalls l title content first second calls ∧ (∀ id, result = .ok id → calls.length = 3))
      (runOn (announce title content) l) := by
  intro first second third
  -- a call that is not sent leaves the calls before it, and one that fails has been sent itself
  refine makes_unary_bind dialed faithful_getAccountInfo ?_ ?_ ?_
  · intro status (h : first = _)
    refine ⟨?_, .none, fun _ => nofun⟩
    rw [h]
    rfl
  · intro status c₁ (h : first = _) asked
    refine ⟨?_, .account asked, fun _ => nofun⟩
    rw [h]
    rfl
  intro account c₁ (known : first = _) asked
  refine makes_unary_bind (l := l.after _ c₁) dialed (faithful_getId account.ocid) ?_ ?_ ?_
  · intro status (h : second = _)
    refine ⟨?_, .account asked, fun _ => nofun⟩
    rw [known, h]
    rfl
  · intro status c₂ (h : second = _) asked'
    refine ⟨?_, .publisher asked known asked'.of_after, fun _ => nofun⟩
    rw [known, h]
    rfl
  intro publisher c₂ (known' : second = _) asked'
  refine makes_unary_bind (l := (l.after _ c₁).after _ c₂) dialed
    (faithful_announcementBy publisher.id title content) ?_ ?_ ?_
  · intro status (h : third = _)
    refine ⟨?_, .publisher asked known asked'.of_after, fun _ => nofun⟩
    rw [known, known', h]
    rfl
  · intro status c₃ (h : third = _) sent
    refine ⟨?_, .published asked known asked'.of_after known' sent.of_after.of_after, fun _ => nofun⟩
    rw [known, known', h]
    rfl
  intro published c₃ (done : third = _) sent
  refine makes_pure ⟨?_, .published asked known asked'.of_after known' sent.of_after.of_after,
    fun _ _ => rfl⟩
  rw [known, known', done]
  rfl

/-- **An announcement stops at the first call that fails.** Below an address that can be dialed, with any
session and any peer, its calls are the first ones of these: the question for the account of the session,
the question for the number of exactly this account, and the announcement under exactly this number, with
the title and the content as they are. Each is made only if the ones before have succeeded. The
announcement succeeds exactly if all three do, with the number that the third is answered, and it fails
exactly with the error of the first that fails. -/
theorem announce_in_order {address : String} {hasRoots : Bool} {l : Line}
    (dialed : Transport.new address hasRoots = .ok l.transport) (title content : String) :
    let first := outcomeAt l.store l.peer .getAccountInfo
    let second := outcomeAt l.store (l.peer.answer "GetAccountInfo").2 .getId
    let third := outcomeAt l.store ((l.peer.answer "GetAccountInfo").2.answer "GetId").2
      .publishAnnouncement
    let r := runOn (announce title content) l
    (∃ calls, r.2.calls = l.calls ++ calls ∧ AnnounceCalls l title content first second calls ∧
      (∀ id, r.1 = .ok id → calls.length = 3)) ∧
    (∀ id, r.1 = .ok id ↔ ∃ account publisher published, first = .ok account ∧
      second = .ok publisher ∧ third = .ok published ∧ published.id = id) ∧
    (∀ f, r.1 = .error f ↔ ∃ status, .ofStatus status = f ∧ (first = .error status ∨
      (∃ account, first = .ok account ∧ second = .error status) ∨
      ∃ account publisher, first = .ok account ∧ second = .ok publisher ∧ third = .error status)) := by
  intro first second third r
  obtain ⟨calls, left, result, made, whole⟩ := makes_announce dialed title content
  refine ⟨⟨calls, left, made, whole⟩, fun id => ?_, fun f => ?_⟩
  · rw [show r.1 = _ from result]
    exact announceOutcome_eq_ok_iff
  · rw [show r.1 = _ from result]
    exact announceOutcome_eq_error_iff

/-- An announcement by the account "a", whose number is 5. -/
theorem announce_in_order_published :
    let l : Line := ⟨⟨.memory [("token", "t")], {}⟩, ⟨"http://h", ⟨"http", "h", ""⟩⟩,
      .scripted [("GetAccountInfo", [.messages [[10, 1, 97]] (.status .ok "")]),
        ("GetId", [.messages [[8, 5]] (.status .ok "")]),
        ("PublishAnnouncement", [.messages [[8, 9]] (.status .ok "")])], []⟩
    (runOn (announce "title" "content") l).1 = .ok 9 ∧
    ∃ c₁ c₂ c₃, (runOn (announce "title" "content") l).2.calls = [c₁, c₂, c₃] ∧
      Method.getId.request.read c₂.body = .ok { ocid := "a" } ∧
      Method.publishAnnouncement.request.read c₃.body = .ok
        { announcement := some { title := "title", content := "content", publisherId := 5 } } := by
  intro l
  have dialed : Transport.new "http://h" true = .ok l.transport := by decide +kernel
  have first : outcomeAt l.store l.peer .getAccountInfo = .ok { ocid := "a" } := by decide +kernel
  have second : outcomeAt l.store (l.peer.answer "GetAccountInfo").2 .getId = .ok { id := 5 } := by
    decide +kernel
  obtain ⟨⟨calls, left, made, whole⟩, succeeds, -⟩ := announce_in_order dialed "title" "content"
  have third : outcomeAt l.store ((l.peer.answer "GetAccountInfo").2.answer "GetId").2
      .publishAnnouncement = .ok { id := 9 } := by decide +kernel
  have ok := (succeeds 9).mpr ⟨_, _, _, first, second, third, rfl⟩
  have three : calls.length = 3 := whole 9 ok
  refine ⟨ok, ?_⟩
  cases made with
  | none | account | publisher => cases three
  | @published c₁ c₂ c₃ account publisher asked known asked' known' sent =>
    cases first.symm.trans known
    cases second.symm.trans known'
    refine ⟨c₁, c₂, c₃, left, asked'.read ?_, sent.read ?_⟩
    · rw [asked'.body]
      decide +kernel
    · rw [sent.body]
      decide +kernel

end AdminPanel.Page
