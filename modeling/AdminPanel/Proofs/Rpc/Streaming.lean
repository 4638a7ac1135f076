import AdminPanel.Proofs.Rpc.Calling

/-!
# Streams of messages

What a reply is as a stream: the messages that can be read, in order, and how the stream finishes. This
says nothing about who reads the stream, or how far.

* **`Streams`** — the messages and the finish of a reply.
* **`Streams.exists`**, **`Streams.unique`** — every reply has them, and has no others.
* **`opens_openReply`** — opening a reply leads to its messages, or to the error that it is.
-/

namespace AdminPanel.Rpc

variable {α β : Type} {m : Method α β}

/-! ## Messages and how they finish -/

/-- How a stream finishes for its reader: with the good status, without any that is waited for, or with an
error. -/
inductive Finish where
  | clean
  | silent
  | failed (status : Status)
  deriving DecidableEq

/-- The error of a finish. -/
def Finish.bad? : Finish → Option Status
  | .failed status => some status
  | _ => none

/-- What bodies and an ending deliver: messages up to the ending, or up to a body that cannot be read.
Behind such a body there may be anything. -/
inductive Delivers (m : Method α β) : List (List UInt8) → Ending → List β → Finish → Prop where
  | clean (text : String) : Delivers m [] (.status .ok text) [] .clean
  | silent (code : Code) (text : String) : Delivers m [] (.late code text) [] .silent
  | failed {code : Code} (text : String) (bad : code ≠ .ok) :
    Delivers m [] (.status code text) [] (.failed ⟨code, text, []⟩)
  | unreadable {body : List UInt8} {fault : Wire.Fault} (read : m.response.read body = .error fault)
      (bodies : List (List UInt8)) (ending : Ending) :
    Delivers m (body :: bodies) ending [] (.failed ⟨.internal, fault.message, []⟩)
  | message {body : List UInt8} {b : β} {bodies : List (List UInt8)} {ending : Ending}
      {messages : List β} {finish : Finish} (read : m.response.read body = .ok b)
      (rest : Delivers m bodies ending messages finish) :
    Delivers m (body :: bodies) ending (b :: messages) finish

/-- What a reply is as a stream. One without bodies has no messages. -/
inductive Streams (m : Method α β) : Reply → List β → Finish → Prop where
  | messages {bodies : List (List UInt8)} {ending : Ending} {messages : List β} {finish : Finish}
      (delivers : Delivers m bodies ending messages finish) :
    Streams m (.messages bodies ending) messages finish
  | empty (text : String) : Streams m (.statusOnly .ok text) [] .clean
  | refused {code : Code} (text : String) (bad : code ≠ .ok) :
    Streams m (.statusOnly code text) [] (.failed ⟨code, text, responseHeaders⟩)
  | nothing : Streams m (.http 200) [] .clean
  | http {status : Nat} (bad : status ≠ 200) : Streams m (.http status) [] (.failed (httpStatus status))

/-! ## Every reply is one stream -/

theorem Delivers.exists (m : Method α β) (bodies : List (List UInt8)) (ending : Ending) :
    ∃ messages finish, Delivers m bodies ending messages finish := by
  induction bodies with
  | nil =>
    cases ending with
    | late code text => exact ⟨_, _, .silent code text⟩
    | status code text =>
      by_cases good : code = .ok
      · subst good
        exact ⟨_, _, .clean text⟩
      · exact ⟨_, _, .failed text good⟩
  | cons body bodies ih =>
    cases read : m.response.read body with
    | error fault => exact ⟨_, _, .unreadable read bodies ending⟩
    | ok b =>
      obtain ⟨messages, finish, rest⟩ := ih
      exact ⟨_, _, .message read rest⟩

theorem Delivers.unique {bodies : List (List UInt8)} {ending : Ending} {messages messages' : List β}
    {finish finish' : Finish} (h : Delivers m bodies ending messages finish)
    (h' : Delivers m bodies ending messages' finish') : messages = messages' ∧ finish = finish' := by
  -- message by message: the first body that both read decides which constructor both must have
  induction h generalizing messages' with
  | clean =>
    cases h' with
    | clean => exact ⟨rfl, rfl⟩
    | failed _ bad => exact absurd rfl bad
  | silent =>
    cases h'
    exact ⟨rfl, rfl⟩
  | failed text bad =>
    cases h' with
    | clean => exact absurd rfl bad
    | failed => exact ⟨rfl, rfl⟩
  | unreadable read =>
    cases h' with
    | unreadable read' =>
      cases read.symm.trans read'
      exact ⟨rfl, rfl⟩
    | message read' => cases read.symm.trans read'
  | message read _ ih =>
    cases h' with
    | unreadable read' => cases read.symm.trans read'
    | message read' rest' =>
      cases read.symm.trans read'
      obtain ⟨rfl, rfl⟩ := ih rest'
      exact ⟨rfl, rfl⟩

theorem Streams.exists (m : Method α β) (reply : Reply) :
    ∃ messages finish, Streams m reply messages finish := by
  cases reply with
  | messages bodies ending =>
    obtain ⟨messages, finish, delivers⟩ := Delivers.exists m bodies ending
    exact ⟨_, _, .messages delivers⟩
  | statusOnly code text =>
    by_cases good : code = .ok
    · subst good
      exact ⟨_, _, .empty text⟩
    · exact ⟨_, _, .refused text good⟩
  | http status =>
    by_cases good : status = 200
    · subst good
      exact ⟨_, _, .nothing⟩
    · exact ⟨_, _, .http good⟩

theorem Streams.unique {reply : Reply} {messages messages' : List β} {finish finish' : Finish}
    (h : Streams m reply messages finish) (h' : Streams m reply messages' finish') :
    messages = messages' ∧ finish = finish' := by
  cases h with
  | messages delivers =>
    cases h' with
    | messages delivers' => exact delivers.unique delivers'
  | empty | refused | nothing | http => cases h' <;> first | exact ⟨rfl, rfl⟩ | contradiction

/-! ## Opening a stream -/

/-- Opening a reply leads to what it delivers, or fails with the error that it is. -/
theorem opens_openReply {reply : Reply} {messages : List β} {finish : Finish}
    (h : Streams m reply messages finish) (l : Line) :
    (∃ bodies ending, runOn (openReply reply) l = (.ok (bodies, ending), l) ∧
      Delivers m bodies ending messages finish) ∨
    ∃ status, runOn (openReply reply) l = (.error (.ofStatus status), l) ∧ messages = [] ∧
      finish = .failed status := by
  cases h with
  | messages delivers => exact .inl ⟨_, _, rfl, delivers⟩
  | empty => exact .inl ⟨_, _, rfl, .clean ""⟩
  | nothing => exact .inl ⟨_, _, rfl, .clean ""⟩
  | refused text bad =>
    refine .inr ⟨_, ?_, rfl, rfl⟩
    rw [openReply, checkStatus, if_neg bad]
    rfl
  | http bad =>
    refine .inr ⟨_, ?_, rfl, rfl⟩
    rw [openReply, if_neg bad]
    rfl

end AdminPanel.Rpc
