import AdminPanel.Proofs.Text.Previewing
import AdminPanel.Text.Quoted

/-!
# The sizes of excerpts and quotations

* **`takeBytes_eq_iff`** — what is kept of a text that is too long: whole characters, and as many of them
  as there is room for.
* **`Previews`**, **`previews_preview`** — what is shown of a text that counts characters.
* **`utf8ByteSize_bounded_le`** — a bounded message has a size that the message itself no longer
  matters for, but for the digits of its own size.
* **`utf8ByteSize_le_quoted`** — a quoted text is never shorter than the text: a quotation bounds nothing.
-/

namespace AdminPanel.Text

open String (utf8Len)

variable {room n : Nat} {cs taken : List Char}

/-! ## Cutting a text -/

theorem takeBytes_eq_iff :
    takeBytes room cs = taken ↔
      utf8Len taken ≤ room ∧
        ∃ rest, cs = taken ++ rest ∧ ∀ c ∈ rest.head?, room < utf8Len taken + c.utf8Size := by
  -- induction along the cut, with less room behind each character
  fun_induction takeBytes room cs generalizing taken with
  | case1 room =>
    constructor
    · rintro rfl
      exact ⟨Nat.zero_le room, [], rfl, nofun⟩
    · rintro ⟨-, rest, text, -⟩
      exact (List.append_eq_nil_iff.mp text.symm).1.symm
  | case2 room c cs fits ih =>
    constructor
    · rintro rfl
      obtain ⟨inRoom, rest, text, full⟩ := ih.mp rfl
      refine ⟨?_, rest, by rw [List.cons_append, ← text], fun d first => ?_⟩
      · rw [String.utf8Len_cons]
        omega
      · have := full d first
        rw [String.utf8Len_cons]
        omega
    · rintro ⟨inRoom, rest, text, full⟩
      cases taken with
      | nil =>
        -- nothing is kept only where the first character is too big
        have tooBig := full c (by rw [← show c :: cs = rest from text]; rfl)
        rw [String.utf8Len_nil] at tooBig
        omega
      | cons d taken =>
        obtain ⟨rfl, behind⟩ := List.cons.inj text
        rw [String.utf8Len_cons] at inRoom full
        refine congrArg (c :: ·) (ih.mpr ⟨by omega, rest, behind, fun d first => ?_⟩)
        have := full d first
        omega
  | case3 room c cs tooBig =>
    constructor
    · rintro rfl
      refine ⟨Nat.zero_le room, c :: cs, rfl, fun d first => ?_⟩
      obtain rfl := Option.some.inj first
      rw [String.utf8Len_nil]
      omega
    · rintro ⟨inRoom, rest, text, full⟩
      cases taken with
      | nil => rfl
      | cons d taken =>
        obtain ⟨rfl, -⟩ := List.cons.inj text
        rw [String.utf8Len_cons] at inRoom
        omega

/-! ## Previews -/

/-- What is shown of a text where there is room for `most` characters: the whole text, or its start and
three points behind it, which then use up the room. -/
inductive Previews (most : Nat) (text : List Char) : List Char → Prop where
  | whole (fits : text.length ≤ most) : Previews most text text
  | cut {start rest : List Char} (long : most < text.length) (parts : text = start ++ rest)
    (full : start.length + 3 = most) : Previews most text (start ++ ['.', '.', '.'])

theorem previews_preview {most : Nat} (s : String) (room : 3 < most) :
    Previews most s.toList (preview s most).toList := by
  rw [toList_preview]
  rcases Nat.lt_or_ge most s.toList.length with long | fits
  · rw [previewChars_of_long long room]
    refine .cut long (List.take_append_drop (most - 3) s.toList).symm ?_
    rw [List.length_take]
    omega
  · rw [previewChars_of_fits fits]
    exact .whole fits

/-- A preview shows no characters but those of the text and points. -/
theorem Previews.mem {most : Nat} {text shown : List Char} {c : Char} (h : Previews most text shown)
    (within : c ∈ shown) : c ∈ text ∨ c = '.' := by
  cases h with
  | whole => exact .inl within
  | cut long parts full =>
    rcases List.mem_append.mp within with start | points
    · exact .inl (parts ▸ List.mem_append_left _ start)
    · exact .inr (by simpa using points)

/-! ## Bounded messages -/

theorem utf8Len_of_ascii (h : ∀ c ∈ cs, c.utf8Size = 1) : utf8Len cs = cs.length := by
  induction cs with
  | nil => rfl
  | cons c cs ih =>
    rw [String.utf8Len_cons, h c List.mem_cons_self,
      ih fun d within => h d (List.mem_cons_of_mem c within), List.length_cons]

theorem utf8Size_of_mem_toDigits {c : Char} (h : c ∈ Nat.toDigits 10 n) : c.utf8Size = 1 := by
  have digit : c.isDigit = true := Nat.isDigit_of_mem_toDigits (by decide) (by decide) h
  rw [Char.utf8Size_eq_one_iff, UInt32.le_iff_toNat_le]
  simp only [Char.isDigit, Bool.and_eq_true, decide_eq_true_eq, UInt32.le_iff_toNat_le] at digit
  have nine : '9'.val.toNat = 57 := rfl
  have last : (127 : UInt32).toNat = 127 := rfl
  omega

/-- A number of a machine word has at most twenty digits. -/
theorem utf8ByteSize_toString_le (h : n < 2 ^ 64) : (toString n).utf8ByteSize ≤ 20 := by
  have digits : (Nat.toDigits 10 n).length ≤ 20 :=
    (Nat.length_toDigits_le_iff (by decide) (by decide)).mpr (by omega)
  rw [Nat.toString_eq_ofList_toDigits, String.utf8ByteSize_ofList,
    utf8Len_of_ascii fun c => utf8Size_of_mem_toDigits]
  exact digits

theorem utf8ByteSize_bounded_le (room : Nat) (s : String) :
    (bounded room s).utf8ByteSize ≤ room + 29 + (toString s.utf8ByteSize).utf8ByteSize := by
  unfold bounded
  split
  · omega
  · obtain ⟨kept, -⟩ := takeBytes_eq_iff.mp (rfl : takeBytes room s.toList = _)
    have before : "... (truncated, ".utf8ByteSize = 16 := by decide
    have after : " total bytes)".utf8ByteSize = 13 := by decide
    simp only [String.utf8ByteSize_append, String.utf8ByteSize_ofList]
    omega

/-! ## Quotations -/

/-- What stands for a character is no shorter than the character. -/
theorem utf8Size_le_escape (c : Char) : c.utf8Size ≤ utf8Len (escape c) := by
  unfold escape
  split
  · decide
  · decide
  · decide
  · decide
  · decide
  · decide
  · split
    · -- three characters in front of the number, one behind it, and no character has more bytes
      have most := c.utf8Size_le_four
      simp only [numbered, String.utf8Len_append, String.utf8Len_cons]
      have mark : '\\'.utf8Size = 1 := by decide
      have letter : 'u'.utf8Size = 1 := by decide
      have opening : '\x7b'.utf8Size = 1 := by decide
      have closing : '\x7d'.utf8Size = 1 := by decide
      omega
    · simp

theorem utf8ByteSize_le_quoted (s : String) : s.utf8ByteSize ≤ (quoted s).utf8ByteSize := by
  have inside (cs : List Char) : utf8Len cs ≤ utf8Len (cs.flatMap escape) := by
    induction cs with
    | nil => exact Nat.le_refl 0
    | cons c cs ih =>
      have first := utf8Size_le_escape c
      rw [String.utf8Len_cons, List.flatMap_cons, String.utf8Len_append]
      omega
  have := inside s.toList
  rw [quoted, quoteChars, String.utf8ByteSize_ofList, List.cons_append, String.utf8Len_cons,
    String.utf8Len_append, ← String.utf8Len_toList]
  omega

end AdminPanel.Text
