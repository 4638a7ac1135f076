import AdminPanel.Proofs.Rpc.Asking

/-!
# Actions that are put together from calls

All that the pages do between two calls is to compute (`OfCalls`). So what every single call does to its
line, every action does, by induction on how it is put together; and two lines that no call tells apart,
no action tells apart.
-/

namespace AdminPanel.Rpc

variable {α β : Type}

/-- An action that is put together from calls. -/
inductive OfCalls : {α : Type} → OnLine α → Prop where
  | pure {α : Type} (a : α) : OfCalls (Pure.pure a : OnLine α)
  | throw {α : Type} (f : Failure) : OfCalls (MonadExcept.throw f : OnLine α)
  | send {α β : Type} (m : Method α β) (request : α) : OfCalls (send m request)
  | bind {α β : Type} {act : OnLine α} {f : α → OnLine β} (h : OfCalls act)
      (hf : ∀ a, OfCalls (f a)) : OfCalls (act >>= f)
  /-- The result of an action as a value. -/
  | attempt {α : Type} {act : OnLine α} (h : OfCalls act) :
      OfCalls (ExceptT.lift (ExceptT.run act) : OnLine (Except Failure α))

namespace OfCalls

theorem checkStatus (s : Status) : OfCalls (checkStatus s) := by
  unfold Rpc.checkStatus
  split
  · exact .pure _
  · exact .throw _

theorem awaitStatus (headers : Headers) (ending : Ending) : OfCalls (awaitStatus headers ending) :=
  checkStatus _

theorem close (ending : Ending) : OfCalls (close ending) := by
  cases ending with
  | status code message => exact checkStatus _
  | late code message => exact .pure _

theorem readBody (m : Method α β) (body : List UInt8) : OfCalls (readBody m body) := by
  unfold Rpc.readBody
  split
  · exact .pure _
  · exact .throw _

theorem openReply (reply : Reply) : OfCalls (openReply reply) := by
  cases reply with
  | messages bodies ending => exact .pure _
  | statusOnly code message => exact (checkStatus _).bind fun _ => .pure _
  | http status =>
    rw [Rpc.openReply]
    split
    · exact .pure _
    · exact .throw _

theorem streaming (m : Method α β) (request : α) : OfCalls (streaming m request) :=
  (send m request).bind openReply

theorem unary (m : Method α β) (request : α) : OfCalls (unary m request) := by
  refine (send m request).bind fun reply => (openReply reply).bind fun opened => ?_
  obtain ⟨_ | ⟨body, bodies⟩, ending⟩ := opened
  · exact (awaitStatus _ ending).bind fun _ => .throw _
  · exact (readBody m body).bind fun response => (awaitStatus _ ending).bind fun _ => .pure response

end OfCalls

end AdminPanel.Rpc
