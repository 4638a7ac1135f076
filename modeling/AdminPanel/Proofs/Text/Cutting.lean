import AdminPanel.Proofs.Text.Excerpting
import AdminPanel.Proofs.Text.Utf8

/-!
# Where a text is cut

The place at which a text is cut is looked for among its bytes: from the last place that there is room for
backwards, until it lies between two characters. Nothing but the byte behind a place tells whether it does.

* **`lastBoundary`** — the search, byte by byte.
* **`isBoundary_iff`** — the places at which it may stop are those behind some whole characters.
* **`LongestStart`**, **`lastBoundary_of_longestStart`** — it stops behind as many whole characters as there is
  room for, which are at most three bytes short of the room (`LongestStart.lt_size`).
* **`longestStart_iff`**, **`bounded_of_longestStart`** — and a bounded message keeps just these.
-/

namespace AdminPanel.Text

open String (utf8Len utf8EncodeChar)

variable {room place last : Nat} {cs : List Char} {s start : String}

/-! ## The search -/

/-- A byte that goes on with a character, so that none begins with it. -/
def goesOn (b : UInt8) : Bool :=
  128 ≤ b.toNat && b.toNat < 192

/-- Whether a place among the bytes of a text lies between characters: at the beginning, in front of a byte
that begins a character, or at the end. -/
def isBoundary (bytes : List UInt8) (place : Nat) : Bool :=
  if place = 0 then true
  else
    match bytes[place]? with
    | some b => !goesOn b
    | none => place == bytes.length

/-- The last place between characters up to a place: looks at one place after the other, backwards, and has
nothing to look at in front of the text. -/
def lastBoundary (bytes : List UInt8) : Nat → Option Nat
  | 0 => if isBoundary bytes 0 then some 0 else none
  | place + 1 => if isBoundary bytes (place + 1) then some (place + 1) else lastBoundary bytes place

/-- The search stops at the last boundary that it can reach. -/
theorem lastBoundary_of_last {bytes : List UInt8} (boundary : isBoundary bytes last = true)
    (reached : last ≤ place) (none : ∀ i, last < i → i ≤ place → isBoundary bytes i = false) :
    lastBoundary bytes place = some last := by
  induction place with
  | zero =>
    obtain rfl : last = 0 := by omega
    rw [lastBoundary, if_pos boundary]
  | succ place ih =>
    rw [lastBoundary]
    by_cases here : last = place + 1
    · rw [← here, if_pos boundary]
    · have passed : isBoundary bytes (place + 1) = false := none (place + 1) (by omega) (by omega)
      rw [if_neg (by rw [passed]; decide)]
      exact ih (by omega) fun i behind le => none i behind (by omega)

/-! ## Bytes of characters -/

/-- A character is a byte that begins it, and others that go on with it. -/
theorem exists_bytes (c : Char) :
    ∃ b bs, utf8EncodeChar c = b :: bs ∧ goesOn b = false ∧ ∀ b' ∈ bs, goesOn b' = true := by
  have begins (n : Nat) (h : n < 128 ∨ 192 ≤ n ∧ n < 256) : goesOn (UInt8.ofNat n) = false := by
    simp only [goesOn, UInt8.toNat_ofNat', Bool.and_eq_false_iff, decide_eq_false_iff_not]
    omega
  have follows (n : Nat) : goesOn (UInt8.ofNat (n % 64 + 128)) = true := by
    simp only [goesOn, UInt8.toNat_ofNat', Bool.and_eq_true, decide_eq_true_eq]
    omega
  have two {b₁ b₂ : UInt8} (h₁ : goesOn b₁ = true) (h₂ : goesOn b₂ = true) :
      ∀ b ∈ [b₁, b₂], goesOn b = true :=
    List.forall_mem_cons.mpr ⟨h₁, List.forall_mem_singleton.mpr h₂⟩
  unfold utf8EncodeChar
  -- one case for each number of bytes
  dsimp only
  split
  · exact ⟨_, _, rfl, begins _ (by omega), nofun⟩
  · split
    · exact ⟨_, _, rfl, begins _ (by omega), List.forall_mem_singleton.mpr (follows _)⟩
    · split
      · exact ⟨_, _, rfl, begins _ (by omega), two (follows _) (follows _)⟩
      · exact ⟨_, _, rfl, begins _ (by omega),
          List.forall_mem_cons.mpr ⟨follows _, two (follows _) (follows _)⟩⟩

theorem length_bytes (cs : List Char) : (cs.flatMap utf8EncodeChar).length = utf8Len cs := by
  induction cs with
  | nil => rfl
  | cons c cs ih =>
    rw [List.flatMap_cons, List.length_append, String.length_utf8EncodeChar, ih, String.utf8Len_cons,
      Nat.add_comm]

/-- Behind a character, the boundaries are those of what follows it. -/
theorem isBoundary_bytes_cons (c : Char) (cs : List Char) (i : Nat) :
    isBoundary (utf8EncodeChar c ++ cs.flatMap utf8EncodeChar) (c.utf8Size + i) =
      isBoundary (cs.flatMap utf8EncodeChar) i := by
  have behind : (utf8EncodeChar c ++ cs.flatMap utf8EncodeChar)[c.utf8Size + i]? =
      (cs.flatMap utf8EncodeChar)[i]? := by
    rw [List.getElem?_append_right (by simp), String.length_utf8EncodeChar, Nat.add_sub_cancel_left]
  have pos := c.utf8Size_pos
  rw [isBoundary, if_neg (by omega), behind, List.length_append, String.length_utf8EncodeChar]
  cases i with
  | succ i =>
    rw [isBoundary, if_neg (by omega)]
    cases (cs.flatMap utf8EncodeChar)[i + 1]? <;> simp
  | zero =>
    -- the place in front of what follows: its end if it is empty, else its first character begins there
    show _ = true
    cases cs with
    | nil => simp
    | cons d cs =>
      obtain ⟨b, bs, bytes, begins, -⟩ := exists_bytes d
      simp [bytes, begins]

/-- No boundary is inside a character. -/
theorem isBoundary_of_lt {c : Char} {i : Nat} (inside : i < c.utf8Size) (pos : 0 < i)
    (bytes : List UInt8) : isBoundary (utf8EncodeChar c ++ bytes) i = false := by
  obtain ⟨b, bs, encoded, -, follow⟩ := exists_bytes c
  have size : bs.length + 1 = c.utf8Size := by
    rw [← String.length_utf8EncodeChar, encoded, List.length_cons]
  obtain ⟨j, rfl⟩ : ∃ j, i = j + 1 := ⟨i - 1, by omega⟩
  have other : j < bs.length := by omega
  have here : (utf8EncodeChar c ++ bytes)[j + 1]? = some bs[j] := by
    rw [encoded, List.cons_append, List.getElem?_cons_succ, List.getElem?_append_left other,
      List.getElem?_eq_getElem]
  have goes : goesOn bs[j] = true := follow _ (List.getElem_mem other)
  rw [isBoundary, if_neg (by omega), here]
  simp [goes]

/-- **Boundaries are the places behind some whole characters.** -/
theorem isBoundary_iff {i : Nat} :
    isBoundary (cs.flatMap utf8EncodeChar) i = true ↔ ∃ taken, taken <+: cs ∧ utf8Len taken = i := by
  -- character by character: a place is in front of the first one, inside it or behind it
  induction cs generalizing i with
  | nil =>
    have only : isBoundary [] i = true ↔ i = 0 := by
      cases i <;> simp [isBoundary]
    rw [List.flatMap_nil, only]
    constructor
    · rintro rfl
      exact ⟨[], List.nil_prefix, rfl⟩
    · rintro ⟨taken, none, size⟩
      rw [← size, List.prefix_nil.mp none]
      rfl
  | cons c cs ih =>
    rw [List.flatMap_cons]
    have pos := c.utf8Size_pos
    rcases Nat.lt_or_ge i c.utf8Size with inside | behind
    · -- in front of the character, or in the middle of it
      constructor
      · intro boundary
        rcases Nat.eq_zero_or_pos i with rfl | into
        · exact ⟨[], List.nil_prefix, rfl⟩
        · rw [isBoundary_of_lt inside into] at boundary
          cases boundary
      · rintro ⟨taken, front, size⟩
        rcases List.prefix_cons_iff.mp front with rfl | ⟨taken, rfl, -⟩
        · rw [← size]
          rfl
        · rw [String.utf8Len_cons] at size
          omega
    · obtain ⟨j, rfl⟩ := Nat.exists_eq_add_of_le behind
      rw [isBoundary_bytes_cons, ih]
      constructor
      · rintro ⟨taken, front, size⟩
        exact ⟨c :: taken, List.cons_prefix_cons.mpr ⟨rfl, front⟩, by rw [String.utf8Len_cons]; omega⟩
      · rintro ⟨taken, front, size⟩
        rcases List.prefix_cons_iff.mp front with rfl | ⟨taken, rfl, rest⟩
        · rw [String.utf8Len_nil] at size
          omega
        · exact ⟨taken, rest, by rw [String.utf8Len_cons] at size; omega⟩

/-! ## The longest start -/

/-- As many characters of a text, from its start, as there is room for. -/
structure LongestStart (room : Nat) (s start : String) : Prop where
  isStart : start.toList <+: s.toList
  fits : start.utf8ByteSize ≤ room
  longest : ∀ other : String, other.toList <+: s.toList → other.utf8ByteSize ≤ room →
    other.toList <+: start.toList

/-- Whatever of a text there is room for is taken. -/
theorem prefix_takeBytes {other : List Char} (front : other <+: cs) (fits : utf8Len other ≤ room) :
    other <+: takeBytes room cs := by
  fun_induction takeBytes room cs generalizing other with
  | case1 room => exact front
  | case2 room c cs inRoom ih =>
    rcases List.prefix_cons_iff.mp front with rfl | ⟨other, rfl, rest⟩
    · exact List.nil_prefix
    · rw [String.utf8Len_cons] at fits
      exact List.cons_prefix_cons.mpr ⟨rfl, ih rest (by omega)⟩
  | case3 room c cs tooBig =>
    rcases List.prefix_cons_iff.mp front with rfl | ⟨other, rfl, -⟩
    · exact List.nil_prefix
    · rw [String.utf8Len_cons] at fits
      omega

theorem longestStart_takeBytes (room : Nat) (s : String) :
    LongestStart room s (String.ofList (takeBytes room s.toList)) := by
  obtain ⟨inRoom, rest, text, -⟩ := takeBytes_eq_iff.mp (rfl : takeBytes room s.toList = _)
  refine ⟨?_, ?_, fun other front fits => ?_⟩
  · rw [String.toList_ofList]
    exact ⟨rest, text.symm⟩
  · rw [String.utf8ByteSize_ofList]
    exact inRoom
  · rw [String.toList_ofList]
    exact prefix_takeBytes front (by rwa [String.utf8Len_toList])

/-- A text has one longest start. -/
theorem longestStart_iff : LongestStart room s start ↔ start.toList = takeBytes room s.toList := by
  have taken := longestStart_takeBytes room s
  constructor
  · intro h
    have front := taken.longest start h.isStart h.fits
    have back := h.longest _ taken.isStart taken.fits
    rw [String.toList_ofList] at front back
    exact front.eq_of_length_le back.length_le
  · intro same
    rwa [← same, String.ofList_toList] at taken

/-- Where not all of a text is taken, less than a character of the room is left. -/
theorem LongestStart.lt_size (h : LongestStart room s start) (long : room < s.utf8ByteSize) :
    room < start.utf8ByteSize + 4 := by
  obtain ⟨-, rest, text, full⟩ := takeBytes_eq_iff.mp (longestStart_iff.mp h).symm
  have size := congrArg utf8Len text
  rw [String.utf8Len_append, String.utf8Len_toList, String.utf8Len_toList] at size
  have kept := h.fits
  cases rest with
  | nil =>
    rw [String.utf8Len_nil] at size
    omega
  | cons c rest =>
    have tooBig := full c rfl
    have most := c.utf8Size_le_four
    rw [String.utf8Len_toList] at tooBig
    omega

/-! ## The cut -/

/-- The bytes of a start are those that a text begins with. -/
theorem take_bytes (h : start.toList <+: s.toList) :
    s.toUTF8.toList.take start.utf8ByteSize = start.toUTF8.toList := by
  obtain ⟨rest, text⟩ := h
  rw [toUTF8_toList, toUTF8_toList, ← text, List.flatMap_append]
  exact List.take_left' (by rw [length_bytes, String.utf8Len_toList])

/-- **The search stops behind the longest start**, so that no character is split and none is left out that
there was room for. -/
theorem lastBoundary_of_longestStart (h : LongestStart room s start) :
    lastBoundary s.toUTF8.toList room = some start.utf8ByteSize := by
  rw [toUTF8_toList]
  refine lastBoundary_of_last ?_ h.fits fun i behind reached => ?_
  · exact isBoundary_iff.mpr ⟨start.toList, h.isStart, String.utf8Len_toList start⟩
  · -- a boundary further on would be the end of a longer start
    rw [Bool.eq_false_iff]
    intro boundary
    obtain ⟨taken, front, rfl⟩ := isBoundary_iff.mp boundary
    have within := h.longest (String.ofList taken) (by rwa [String.toList_ofList])
      (by rwa [String.utf8ByteSize_ofList])
    have size := String.utf8Len_le_of_prefix within
    rw [String.toList_ofList, String.utf8Len_toList] at size
    omega

/-- A bounded message keeps the longest start of a text that is too long. -/
theorem bounded_of_longestStart (h : LongestStart room s start) (long : room < s.utf8ByteSize) :
    bounded room s = start ++ "... (truncated, " ++ toString s.utf8ByteSize ++ " total bytes)" := by
  rw [bounded, if_neg (by omega), ← longestStart_iff.mp h, String.ofList_toList]

end AdminPanel.Text
