import AdminPanel.Proofs.Rpc.Bounding
import AdminPanel.Proofs.Text.Cutting

/-!
# What is passed on of the server's words

A failure of a class of its own carries the server's message, or the start of it and how many bytes there
were. The start ends where the search among the bytes of the message does: `words_end_at_boundary`.
-/

namespace AdminPanel.Rpc.Failure

open Text (bounded LongestStart lastBoundary)

variable {s : Status}

/-- What a failure of a class of its own carries of the server's message. -/
def words? : Failure → Option String
  | .authentication words | .notFound words | .unavailable words | .unimplemented words
  | .invalidRequest words | .server words => some words
  | .status _ => none

/-- All classes carry the same. -/
theorem words?_of_classified (h : s.code ∉ Code.unclassified) :
    (ofStatus s).words? = some (bounded messageRoom s.message) := by
  unfold ofStatus
  cases code : s.code
  case ok | cancelled | deadlineExceeded | resourceExhausted | aborted =>
    exact absurd (by rw [code]; decide) h
  all_goals rfl

theorem words?_eq_none_iff : (ofStatus s).words? = none ↔ s.code ∈ Code.unclassified := by
  constructor
  · intro none
    by_contra classified
    rw [words?_of_classified classified] at none
    cases none
  · intro unclassified
    rw [ofStatus_of_unclassified unclassified]
    rfl

/-- **The server's words are cut in front of a character, as late as possible.** A failure that has a class
carries a message of at most five hundred bytes as it is. Of a longer message, the search for a boundary
from the five hundredth byte backwards goes no further than three bytes. The bytes in front of its stop are
the longest start of the message, of whole characters, that has room in five hundred bytes, and a failure
that has a class carries this start and the number of bytes of the whole. -/
theorem words_end_at_boundary (s : Status) :
    ((ofStatus s).words? = none ↔ s.code ∈ Code.unclassified) ∧
    (s.message.utf8ByteSize ≤ 500 → s.code ∉ Code.unclassified →
      (ofStatus s).words? = some s.message) ∧
    (500 < s.message.utf8ByteSize →
      ∃ start, LongestStart 500 s.message start ∧
        497 ≤ start.utf8ByteSize ∧ start.utf8ByteSize ≤ 500 ∧
        lastBoundary s.message.toUTF8.toList 500 = some start.utf8ByteSize ∧
        s.message.toUTF8.toList.take start.utf8ByteSize = start.toUTF8.toList ∧
        (s.code ∉ Code.unclassified →
          (ofStatus s).words? = some (start ++ "... (truncated, " ++
            toString s.message.utf8ByteSize ++ " total bytes)"))) := by
  refine ⟨words?_eq_none_iff, fun fits classified => ?_, fun long => ?_⟩
  · rw [words?_of_classified classified, bounded, messageRoom, if_pos fits]
  · have taken := Text.longestStart_takeBytes 500 s.message
    have short := taken.lt_size long
    refine ⟨_, taken, by omega, taken.fits, Text.lastBoundary_of_longestStart taken,
      Text.take_bytes taken.isStart, fun classified => ?_⟩
    rw [words?_of_classified classified, messageRoom, Text.bounded_of_longestStart taken long]

/-- A character of four bytes behind 498 bytes: two of its bytes would have room, and it is left out. -/
theorem words_end_at_boundary_split :
    let message := letters 498 ++ "😀"
    lastBoundary message.toUTF8.toList 500 = some 498 ∧
    (ofStatus ⟨.internal, message, []⟩).words? =
      some (letters 498 ++ "... (truncated, 502 total bytes)") := by
  intro message
  have size : message.utf8ByteSize = 502 := by
    rw [String.utf8ByteSize_append, utf8ByteSize_letters]
    rfl
  have front : String.utf8Len (letters 498).toList = 498 := by
    rw [String.utf8Len_toList, utf8ByteSize_letters]
  -- the last character would end at byte 502 and is dropped whole
  have kept : Text.takeBytes 500 message.toList = (letters 498).toList := by
    refine Text.takeBytes_eq_iff.mpr ⟨by omega, ['😀'], String.toList_append, fun c first => ?_⟩
    obtain rfl := Option.some.inj first
    have four : '😀'.utf8Size = 4 := by decide
    omega
  have long : 500 < message.utf8ByteSize := by omega
  obtain ⟨-, -, cut⟩ := words_end_at_boundary ⟨.internal, message, []⟩
  obtain ⟨start, longest, -, -, stop, -, words⟩ := cut long
  obtain rfl : start = letters 498 :=
    String.toList_inj.mp ((Text.longestStart_iff.mp longest).trans kept)
  rw [utf8ByteSize_letters] at stop
  refine ⟨stop, (words (by decide)).trans ?_⟩
  show some (letters 498 ++ "... (truncated, " ++ toString message.utf8ByteSize ++ " total bytes)") = _
  rw [size, String.append_assoc, String.append_assoc]
  rfl

end AdminPanel.Rpc.Failure
