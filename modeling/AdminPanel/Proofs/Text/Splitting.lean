import Mathlib.Data.String.Basic

/-!
# Splitting texts

A text that is split at a character is split as the list of its characters is (`splitOn_char`), which
computes.
-/

namespace AdminPanel.Text

open String

/-- From a place in a text on: the parts that are complete, and what has been read of the next one. -/
theorem splitOnAux_char (sep : Char) (l m r : List Char) (parts : List String) :
    splitOnAux (ofList (l ++ m ++ r)) (ofList [sep]) ⟨utf8Len l⟩ ⟨utf8Len l + utf8Len m⟩ 0 parts =
      parts.reverse ++ (List.splitOnPPrepend (· == sep) r m.reverse).map ofList := by
  have get : Pos.Raw.get (ofList [sep]) 0 = sep := get_of_valid [] [sep]
  have next : Pos.Raw.next (ofList [sep]) 0 = ⟨sep.utf8Size⟩ := by
    simpa using next_of_valid [] sep []
  -- `l` is what the parts found so far are made of, `m` the part that is being read
  rw [splitOnAux]
  simp only [List.append_assoc, atEnd_iff, rawEndPos_ofList, utf8Len_append, Pos.Raw.mk_le_mk,
    Nat.add_le_add_iff_left, (by omega : utf8Len m + utf8Len r ≤ utf8Len m ↔ utf8Len r = 0),
    utf8Len_eq_zero, List.reverse_cons]
  split
  · -- the last part
    subst r
    simpa using extract_of_valid l m []
  · obtain ⟨c, r, rfl⟩ := r.exists_cons_of_ne_nil ‹_›
    have here := get_of_valid (l ++ m) (c :: r)
    have after := next_of_valid (l ++ m) c r
    have part := extract_of_valid l m (c :: r)
    rw [utf8Len_append, List.append_assoc] at here after
    rw [List.append_assoc] at part
    have back : (⟨utf8Len l + utf8Len m⟩ : Pos.Raw).unoffsetBy 0 = ⟨utf8Len l + utf8Len m⟩ := rfl
    simp only [here, List.headD_cons, after, get, next, back]
    by_cases separates : c = sep
    · subst separates
      have before : (⟨utf8Len l + utf8Len m + c.utf8Size⟩ : Pos.Raw).unoffsetBy ⟨c.utf8Size⟩ =
          ⟨utf8Len l + utf8Len m⟩ := by
        simp [Pos.Raw.unoffsetBy]
      rw [before, part]
      simpa [Nat.add_assoc, List.splitOnPPrepend_cons_eq_if] using
        splitOnAux_char c (l ++ m ++ [c]) [] r (ofList m :: parts)
    · simpa [List.splitOnPPrepend_cons_eq_if, separates, Nat.add_assoc] using
        splitOnAux_char sep l (m ++ [c]) r parts

/-- **A text is split at a character as the list of its characters is.** -/
theorem splitOn_char (sep : Char) (text : String) :
    text.splitOn (ofList [sep]) = (text.toList.splitOnP (· == sep)).map ofList := by
  have whole := splitOnAux_char sep [] [] text.toList []
  rw [List.append_nil, List.nil_append, ofList_toList] at whole
  rw [splitOn, if_neg (by simp)]
  exact whole

end AdminPanel.Text
