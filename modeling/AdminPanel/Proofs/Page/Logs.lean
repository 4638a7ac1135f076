import AdminPanel.Page.Load
import AdminPanel.Proofs.Rpc.Streaming

/-!
# Reading the log

The log reads a stream of deliveries with room for some of them, and one more only to tell that there were
more. So a stream that just fits is read up to its finish, and one that does not fit is left behind the
first delivery without room (`runOn_readEntries`, by induction on what the stream delivers).

`loadLogs_reads` puts the call in front of this: what was asked for, and what became of the stream.
-/

namespace AdminPanel.Page

open Message
open Rpc

/-! ## The loop -/

/-- What is read of a stream with room for some deliveries. -/
def entriesOf (room : Nat) (messages : List FetchMsgsResponse) (finish : Finish) :
    Except Failure (List LogEntry × Bool) :=
  if room < messages.length then .ok ((messages.take room).map .ofMessage, true)
  else finish.bad?.elim (.ok (messages.map .ofMessage, false)) fun status => .error (.ofStatus status)

/-- One delivery takes one place, and is the first that is read. -/
theorem entriesOf_cons (room : Nat) (message : FetchMsgsResponse) (messages : List FetchMsgsResponse)
    (finish : Finish) :
    entriesOf (room + 1) (message :: messages) finish =
      (entriesOf room messages finish).map fun read => (.ofMessage message :: read.1, read.2) := by
  unfold entriesOf
  simp only [List.length_cons, Nat.add_lt_add_iff_right, List.take_succ_cons, List.map_cons]
  split
  · rfl
  · cases finish.bad? <;> rfl

/-- **The loop** reads what its room allows, and leaves the line alone. -/
theorem runOn_readEntries {bodies : List (List UInt8)} {ending : Ending}
    {messages : List FetchMsgsResponse} {finish : Finish}
    (h : Delivers .fetchMsgs bodies ending messages finish) (room : Nat) (l : Line) :
    runOn (readEntries ending room bodies) l = (entriesOf room messages finish, l) := by
  -- induction on what the stream delivers, for any room
  induction h generalizing room with
  | clean | silent =>
    rw [readEntries, runOn_bind]
    rfl
  | failed text bad =>
    rw [readEntries, runOn_bind, close, checkStatus, if_neg bad]
    rfl
  | unreadable read =>
    cases room with
    | zero | succ =>
      rw [readEntries, runOn_bind, runOn_readBody, read]
      rfl
  | message read _ ih =>
    cases room with
    | zero =>
      rw [readEntries, runOn_bind, runOn_readBody, read]
      rfl
    | succ room =>
      simp only [readEntries, runOn_bind, runOn_readBody, read, ih, entriesOf_cons]
      cases entriesOf room _ _ <;> rfl

/-! ## The whole log -/

/-- What the log asks for. -/
def logRequest (since : Time.Instant) : FetchMsgsRequest := { time := some (.ofInstant since) }

theorem faithful_logRequest (since : Time.Instant) : Faithful .fetchMsgs (logRequest since) where
  named := by decide
  declared := by simp [declared, Method.fetchMsgs]
  unsigned := rfl

/-- What is done with the reply. -/
def readLog (room : Nat) (since : Time.Instant) (reply : Reply) : OnLine Logs := do
  let (bodies, ending) ← openReply reply
  let (entries, truncated) ← readEntries ending room bodies
  return { since, entries, truncated }

theorem loadLogs_eq (settings : LogSettings) (now : Time.Instant) :
    let since := secondsBefore now settings.lookbackSeconds
    loadLogs settings now =
      (do readLog settings.kept since (← send .fetchMsgs (logRequest since))) := by
  unfold loadLogs streaming
  rw [bind_assoc]
  rfl

theorem runOn_readLog {reply : Reply} {messages : List FetchMsgsResponse} {finish : Finish}
    (streams : Streams .fetchMsgs reply messages finish) (room : Nat) (since : Time.Instant) (l : Line) :
    runOn (readLog room since reply) l =
      ((entriesOf room messages finish).map fun read => ⟨since, read.1, read.2⟩, l) := by
  rw [readLog, runOn_bind]
  rcases opens_openReply streams l with
    ⟨bodies, ending, opened, delivers⟩ | ⟨status, refused, rfl, rfl⟩
  · rw [opened]
    simp only [runOn_bind, runOn_readEntries delivers]
    cases entriesOf room messages finish <;> rfl
  · rw [refused]
    rfl

/-- The ways in which the log can be read below an address that can be dialed. -/
inductive Reads (settings : LogSettings) (since : Time.Instant) (l : Line) :
    Except Failure Logs × Line → Prop where
  | unsent {status : Status} (h : replyAt l.store l.peer "FetchMsgs" = .error status) :
    Reads settings since l (.error (.ofStatus status), l)
  | answered {reply : Reply} {messages : List FetchMsgsResponse} {finish : Finish} {c : Call}
      (h : replyAt l.store l.peer "FetchMsgs" = .ok reply)
      (carries : Carries l .fetchMsgs (logRequest since) c)
      (streams : Streams .fetchMsgs reply messages finish) :
    Reads settings since l
      ((entriesOf settings.kept messages finish).map fun read => ⟨since, read.1, read.2⟩,
        l.after "FetchMsgs" c)

theorem reads_loadLogs {address : String} {hasRoots : Bool} {l : Line}
    (dialed : Transport.new address hasRoots = .ok l.transport) (settings : LogSettings)
    (now : Time.Instant) :
    Reads settings (secondsBefore now settings.lookbackSeconds) l (runOn (loadLogs settings now) l) := by
  have sends := sends_send dialed
    (faithful_logRequest (secondsBefore now settings.lookbackSeconds))
  rw [loadLogs_eq, runOn_bind]
  generalize runOn (send .fetchMsgs (logRequest (secondsBefore now settings.lookbackSeconds))) l = r
    at sends ⊢
  cases sends with
  | unsent h => exact .unsent h
  | @sent reply _ h carries =>
    obtain ⟨messages, finish, streams⟩ := Streams.exists Method.fetchMsgs reply
    simp only [runOn_readLog streams]
    exact .answered h carries streams

/-- **The log is the beginning of the stream, in order, and says whether that is all.** Below an address
that can be dialed, a call that is not answered fails as such. One that is answered asks for the deliveries
since the time that the settings name. Every answer is a stream of messages that finishes somehow. If there
are more messages than may be kept, of which there is at least one, then the log holds the first that may
be kept, whatever the stream finishes with. If not, the log holds them all if the stream finishes cleanly
or falls silent, and fails with the error if it finishes with one. -/
theorem loadLogs_reads {address : String} {hasRoots : Bool} {l : Line}
    (dialed : Transport.new address hasRoots = .ok l.transport) (settings : LogSettings)
    (now : Time.Instant) :
    let room := if settings.maxEntries = 0 then 1 else settings.maxEntries
    let since := secondsBefore now settings.lookbackSeconds
    let r := runOn (loadLogs settings now) l
    (∀ status, replyAt l.store l.peer "FetchMsgs" = .error status →
      r = (.error (.ofStatus status), l)) ∧
    (∀ reply, replyAt l.store l.peer "FetchMsgs" = .ok reply →
      (∃ c, r.2 = l.after "FetchMsgs" c ∧
        Carries l .fetchMsgs { time := some (.ofInstant since) } c) ∧
      (∃ messages finish, Streams .fetchMsgs reply messages finish) ∧
      ∀ messages finish, Streams .fetchMsgs reply messages finish →
        (room < messages.length → r.1 = .ok ⟨since, (messages.take room).map .ofMessage, true⟩) ∧
        (messages.length ≤ room → finish = .clean ∨ finish = .silent →
          r.1 = .ok ⟨since, messages.map .ofMessage, false⟩) ∧
        (messages.length ≤ room → ∀ status, finish = .failed status →
          r.1 = .error (.ofStatus status))) := by
  intro room since r
  -- a maximum of nothing is read as one entry
  have kept : settings.kept = room := by
    show max settings.maxEntries 1 = if settings.maxEntries = 0 then 1 else settings.maxEntries
    split <;> omega
  have reads : Reads settings since l r := reads_loadLogs dialed settings now
  generalize r = r at reads
  cases reads with
  | unsent h =>
    refine ⟨fun status unsent => ?_, fun reply answered => ?_⟩
    · cases h.symm.trans unsent
      rfl
    · cases h.symm.trans answered
  | answered h carries streams =>
    refine ⟨fun status unsent => ?_, fun reply answered => ?_⟩
    · cases h.symm.trans unsent
    cases h.symm.trans answered
    refine ⟨⟨_, rfl, carries⟩, ⟨_, _, streams⟩, fun messages finish streams' => ?_⟩
    obtain ⟨rfl, rfl⟩ := streams.unique streams'
    rw [kept, entriesOf]
    -- the entry behind the last one kept decides: if it arrives the log is cut, whatever comes later
    refine ⟨fun more => ?_, fun fits good => ?_, fun fits status failed => ?_⟩
    · rw [if_pos more]
      rfl
    · rw [if_neg (by omega)]
      rcases good with rfl | rfl <;> rfl
    · rw [if_neg (by omega), failed]
      rfl

/-- Two deliveries in front of one that cannot be read: with room for one, which none is taken to mean, it
is never reached, and with room for both it is the failure. -/
theorem loadLogs_reads_two :
    let l : Line := ⟨⟨.memory [("token", "t")], {}⟩, ⟨"http://h", ⟨"http", "h", ""⟩⟩,
      .scripted [("FetchMsgs", [.messages [[8, 1], [8, 2], [255]] (.late .ok "")])], []⟩
    (runOn (loadLogs { maxEntries := 0, lookbackSeconds := 0 } .epoch) l).1 =
      .ok ⟨.epoch, [⟨1, none, none, false, ""⟩], true⟩ ∧
    (runOn (loadLogs { maxEntries := 2, lookbackSeconds := 0 } .epoch) l).1 =
      .error (.ofStatus ⟨.internal, "failed to decode Protobuf message: invalid varint", []⟩) := by
  intro l
  have dialed : Transport.new "http://h" true = .ok l.transport := by decide +kernel
  have answered : replyAt l.store l.peer "FetchMsgs" =
      .ok (.messages [[8, 1], [8, 2], [255]] (.late .ok "")) := by decide +kernel
  have broken : Method.fetchMsgs.response.read [255] = .error ⟨.invalidVarint, []⟩ := rfl
  have streams : Streams .fetchMsgs (.messages [[8, 1], [8, 2], [255]] (.late .ok ""))
      [{ msgId := 1 }, { msgId := 2 }]
      (.failed ⟨.internal, "failed to decode Protobuf message: invalid varint", []⟩) :=
    .messages (.message rfl (.message rfl (.unreadable broken [] (.late .ok ""))))
  constructor
  · obtain ⟨-, reads⟩ := loadLogs_reads dialed { maxEntries := 0, lookbackSeconds := 0 } .epoch
    exact ((reads _ answered).2.2 _ _ streams).1 (by decide)
  · obtain ⟨-, reads⟩ := loadLogs_reads dialed { maxEntries := 2, lookbackSeconds := 0 } .epoch
    exact ((reads _ answered).2.2 _ _ streams).2.2 (by decide) _ rfl

end AdminPanel.Page
