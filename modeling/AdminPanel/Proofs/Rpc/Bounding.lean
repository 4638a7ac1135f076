import AdminPanel.Proofs.Text.Excerpting
import AdminPanel.Rpc.Failure

/-!
# How long the words of a failed call are

A failure of a class of its own has its words in front of a bounded message (`message_of_classified`), so
that no server makes it long. The failures of the other statuses hold the status itself, and its whole
message with it (`lt_message_of_unclassified`).
-/

namespace AdminPanel.Rpc

open Text (quoted bounded)

variable {n : Int} {s : Status}

/-! ## Codes -/

/-- The codes that have no class of their own. -/
def Code.unclassified : List Code :=
  [.ok, .cancelled, .deadlineExceeded, .resourceExhausted, .aborted]

/-- A number without a code counts as unknown, which has a class. -/
theorem Code.ofInt_of_outside (h : n < 0 ∨ 16 < n) : Code.ofInt n = .unknown := by
  unfold Code.ofInt
  split
  · have outside : Code.all.length ≤ n.toNat := by
      rw [show Code.all.length = 17 from rfl]
      omega
    rw [List.getElem?_eq_none outside]
    rfl
  · rfl

theorem Code.ofInt_mem_unclassified_iff :
    Code.ofInt n ∈ Code.unclassified ↔ n ∈ ([0, 1, 4, 8, 10] : List Int) := by
  rcases Classical.em (n < 0 ∨ 16 < n) with outside | inside
  · rw [Code.ofInt_of_outside outside]
    constructor
    · intro h
      exact absurd h (by decide)
    · intro h
      simp only [List.mem_cons, List.not_mem_nil, or_false] at h
      omega
  · have all : ∀ m ∈ List.range 17, Code.ofInt m ∈ Code.unclassified ↔
        (m : Int) ∈ ([0, 1, 4, 8, 10] : List Int) := by decide
    obtain ⟨m, rfl⟩ := Int.eq_ofNat_of_zero_le (show 0 ≤ n by omega)
    exact all m (List.mem_range.mpr (by omega))

namespace Failure

/-! ## Messages -/

/-- The most bytes that a class puts in front of the server's words. -/
def openingRoom : Nat := 46

theorem message_of_classified (h : s.code ∉ Code.unclassified) :
    ∃ opening : String, opening.utf8ByteSize ≤ openingRoom ∧
      (ofStatus s).message = opening ++ bounded messageRoom s.message := by
  unfold ofStatus
  cases code : s.code <;> rw [code] at h <;> try exact absurd (by decide) h
  -- one case for each class; the codes without a class are ruled out
  case unauthenticated | permissionDenied => exact ⟨_, by decide, rfl⟩
  case notFound => exact ⟨_, by decide, rfl⟩
  case unavailable => exact ⟨_, by decide, rfl⟩
  case unimplemented => exact ⟨_, by decide, rfl⟩
  case invalidArgument | failedPrecondition | alreadyExists | outOfRange =>
    exact ⟨_, by decide, rfl⟩
  case internal | unknown | dataLoss => exact ⟨_, by decide, rfl⟩

theorem ofStatus_of_unclassified (h : s.code ∈ Code.unclassified) : ofStatus s = .status s := by
  simp only [Code.unclassified, List.mem_cons, List.not_mem_nil, or_false] at h
  rcases h with code | code | code | code | code <;> simp only [ofStatus, code]

/-- The words of a status hold its message, quoted, and more. -/
theorem lt_utf8ByteSize_text (s : Status) : s.message.utf8ByteSize < s.text.utf8ByteSize := by
  have whole := Text.utf8ByteSize_le_quoted s.message
  have before : "status: ".utf8ByteSize = 8 := by decide
  simp only [Status.text, String.utf8ByteSize_append]
  omega

theorem lt_message_of_unclassified (h : s.code ∈ Code.unclassified) :
    s.message.utf8ByteSize < (ofStatus s).message.utf8ByteSize := by
  have whole := lt_utf8ByteSize_text s
  have words : (Failure.status s).message = "RPC failed: " ++ s.text := rfl
  rw [ofStatus_of_unclassified h, words, String.utf8ByteSize_append]
  exact Nat.lt_of_lt_of_le whole (Nat.le_add_left _ _)

/-- A message of one letter, again and again. -/
def letters (n : Nat) : String := String.ofList (List.replicate n 'x')

theorem utf8ByteSize_letters (n : Nat) : (letters n).utf8ByteSize = n := by
  have ascii : ∀ c ∈ List.replicate n 'x', c.utf8Size = 1 := by
    intro c within
    rw [List.eq_of_mem_replicate within]
    decide
  rw [letters, String.utf8ByteSize_ofList, Text.utf8Len_of_ascii ascii, List.length_replicate]

/-- **How long the words of a failed call are.** A status of any number whose message a machine word can
count gives fewer than seven hundred bytes, whatever the message: all but those of five codes, whose
words are longer than the message is. -/
theorem message_bounded (n : Int) (message : String) (headers : List (String × String)) :
    (n ∉ ([0, 1, 4, 8, 10] : List Int) → message.utf8ByteSize < 2 ^ 64 →
      (ofStatus ⟨Code.ofInt n, message, headers⟩).message.utf8ByteSize < 700) ∧
    (n ∈ ([0, 1, 4, 8, 10] : List Int) →
      ofStatus ⟨Code.ofInt n, message, headers⟩ = .status ⟨Code.ofInt n, message, headers⟩ ∧
      message.utf8ByteSize <
        (ofStatus ⟨Code.ofInt n, message, headers⟩).message.utf8ByteSize) := by
  constructor
  · intro classified sized
    have class' : Code.ofInt n ∉ Code.unclassified := by
      rw [Code.ofInt_mem_unclassified_iff]
      exact classified
    obtain ⟨opening, short, words⟩ :=
      message_of_classified (s := ⟨Code.ofInt n, message, headers⟩) class'
    -- the opening, the words kept and the count of all bytes each have their room
    have digits := Text.utf8ByteSize_toString_le sized
    have room := Text.utf8ByteSize_bounded_le messageRoom message
    rw [words, String.utf8ByteSize_append]
    unfold openingRoom at short
    unfold messageRoom at room
    show _ + (bounded 500 message).utf8ByteSize < 700
    omega
  · intro unclassified
    have whole : Code.ofInt n ∈ Code.unclassified := Code.ofInt_mem_unclassified_iff.mpr unclassified
    exact ⟨ofStatus_of_unclassified (s := ⟨_, message, headers⟩) whole,
      lt_message_of_unclassified (s := ⟨_, message, headers⟩) whole⟩

/-- Of two thousand bytes, those of an internal error are cut, and those of a cancelled call are not. -/
theorem message_bounded_thousands :
    (ofStatus ⟨Code.ofInt 13, letters 2000, []⟩).message.utf8ByteSize < 700 ∧
      2000 < (ofStatus ⟨Code.ofInt 1, letters 2000, []⟩).message.utf8ByteSize := by
  obtain ⟨short, -⟩ := message_bounded 13 (letters 2000) []
  obtain ⟨-, long⟩ := message_bounded 1 (letters 2000) []
  have size := utf8ByteSize_letters 2000
  obtain ⟨-, long⟩ := long (by decide)
  exact ⟨short (by decide) (by omega), by omega⟩

/-- Not every status gives few bytes: the words of a cancelled call are passed on whole. -/
theorem not_message_bounded :
    ¬ ∀ (n : Int) (message : String), message.utf8ByteSize < 2 ^ 64 →
      (ofStatus ⟨Code.ofInt n, message, []⟩).message.utf8ByteSize < 700 := by
  intro bounded
  have size := utf8ByteSize_letters 2000
  have short := bounded 1 (letters 2000) (by omega)
  have long : (letters 2000).utf8ByteSize <
      (ofStatus ⟨Code.ofInt 1, letters 2000, []⟩).message.utf8ByteSize :=
    lt_message_of_unclassified (s := ⟨_, letters 2000, []⟩) (by decide)
  omega

end Failure

end AdminPanel.Rpc
