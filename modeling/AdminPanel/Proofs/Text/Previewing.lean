import Mathlib.Data.String.Basic
import AdminPanel.Text.Excerpt

/-!
# Laws of previews

A preview has as many characters as there is room for, if the text has so many. So a preview that is cut
again where there is no less room stays as it is. Where there is less room, the second cut takes off the
points of the first one and no less, as long as there is room for points of its own.

* **`previewChars_previewChars_iff`** — the widths for which two cuts are one.
* **`preview_laws`** — all of it on texts.
-/

namespace AdminPanel.Text

variable {most less : Nat} {cs : List Char}

/-! ## One cut -/

theorem previewChars_of_fits (fits : cs.length ≤ most) : previewChars most cs = cs :=
  if_pos fits

theorem previewChars_of_few (long : most < cs.length) (few : most ≤ 3) :
    previewChars most cs = cs.take most := by
  rw [previewChars, if_neg (by omega), if_pos few]

theorem previewChars_of_long (long : most < cs.length) (many : 3 < most) :
    previewChars most cs = cs.take (most - 3) ++ ['.', '.', '.'] := by
  rw [previewChars, if_neg (by omega), if_neg (by omega)]

theorem length_previewChars (most : Nat) (cs : List Char) :
    (previewChars most cs).length = min most cs.length := by
  rcases Nat.lt_or_ge most cs.length with long | fits
  · rcases Nat.lt_or_ge 3 most with many | few
    · rw [previewChars_of_long long many, List.length_append, List.length_take]
      show min (most - 3) cs.length + 3 = _
      omega
    · rw [previewChars_of_few long few, List.length_take]
  · rw [previewChars_of_fits fits]
    omega

/-! ## Two cuts -/

/-- A second cut with no less room takes nothing off. -/
theorem previewChars_previewChars_of_le (h : most ≤ less) :
    previewChars less (previewChars most cs) = previewChars most cs :=
  previewChars_of_fits (by rw [length_previewChars]; omega)

/-- A second cut that leaves off the points of the first one is the only cut. -/
theorem previewChars_previewChars_of_lt (h : less < most) (clear : 4 ≤ less ∨ most ≤ 3 ∨ less + 3 ≤ most) :
    previewChars less (previewChars most cs) = previewChars less cs := by
  rcases Nat.lt_or_ge most cs.length with long | fits
  · have again : less < (previewChars most cs).length := by
      rw [length_previewChars]
      omega
    -- what the second cut keeps of the first one is in front of its points
    have kept (n : Nat) (le : n ≤ less) (front : n ≤ most - 3 ∨ most ≤ 3) :
        (previewChars most cs).take n = cs.take n := by
      rcases Nat.lt_or_ge 3 most with many | few
      · rw [previewChars_of_long long many, List.take_append_of_le_length (by rw [List.length_take]; omega),
          List.take_take, Nat.min_eq_left (by omega)]
      · rw [previewChars_of_few long few, List.take_take, Nat.min_eq_left (by omega)]
    rcases Nat.lt_or_ge 3 less with many | few
    · rw [previewChars_of_long again many, previewChars_of_long (by omega) many, kept _ (by omega) (by omega)]
    · rw [previewChars_of_few again few, previewChars_of_few (by omega) few, kept _ (by omega) (by omega)]
  · rw [previewChars_of_fits fits]

/-- **Two cuts are one** for just these widths: the shorter cut has room for points of its own, or ends in
front of those of the longer one. -/
theorem previewChars_previewChars_iff (h : less ≤ most) :
    (∀ cs, previewChars less (previewChars most cs) = previewChars less cs) ↔
      less = most ∨ 4 ≤ less ∨ most ≤ 3 ∨ less + 3 ≤ most := by
  constructor
  · intro same
    by_contra others
    have few : less = 2 ∧ most = 4 ∨ less = 3 ∧ most = 4 ∨ less = 3 ∧ most = 5 := by omega
    -- the second cut shows a point of the first one
    have six := same ['x', 'x', 'x', 'x', 'x', 'x']
    rcases few with ⟨rfl, rfl⟩ | ⟨rfl, rfl⟩ | ⟨rfl, rfl⟩ <;> exact absurd six (by decide)
  · intro clear cs
    rcases Nat.eq_or_lt_of_le h with rfl | shorter
    · exact previewChars_previewChars_of_le (Nat.le_refl less)
    · exact previewChars_previewChars_of_lt shorter (by omega)

/-! ## Texts -/

theorem toList_preview (s : String) (most : Nat) :
    (preview s most).toList = previewChars most s.toList :=
  String.toList_ofList

/-- Two cuts of texts are two cuts of their characters. -/
theorem preview_preview_eq_iff {s : String} :
    preview (preview s most) less = preview s less ↔
      previewChars less (previewChars most s.toList) = previewChars less s.toList := by
  rw [← String.toList_inj, toList_preview, toList_preview, toList_preview]

/-- **What a preview shows.** It has as many characters as there is room for, if the text has so many. A text
with room is shown as it is; one without is shown in part, with three points behind it if more than these
have room. To cut a preview again to its own width leaves it as it is, and to cut it to a smaller one of at
least four is to cut the text to that. Below four this is so for every text just where the second cut ends in
front of the points of the first one, or the first one has no room for points. -/
theorem preview_laws (s : String) (most : Nat) :
    (preview s most).length = min most s.length ∧
    (s.length ≤ most → preview s most = s) ∧
    (most < s.length → most ≤ 3 → preview s most = String.ofList (s.toList.take most)) ∧
    (most < s.length → 3 < most →
      preview s most = String.ofList (s.toList.take (most - 3)) ++ "...") ∧
    preview (preview s most) most = preview s most ∧
    (∀ less, 4 ≤ less → less ≤ most → preview (preview s most) less = preview s less) ∧
    ∀ less ≤ most, (∀ t, preview (preview t most) less = preview t less) ↔
      less = most ∨ 4 ≤ less ∨ most ≤ 3 ∨ less + 3 ≤ most := by
  rw [← String.length_toList, ← String.length_toList]
  refine ⟨?_, fun fits => ?_, fun long few => ?_, fun long many => ?_, ?_, fun less four le => ?_,
    fun less le => ?_⟩
  · rw [toList_preview, length_previewChars]
  · rw [preview, previewChars_of_fits fits, String.ofList_toList]
  · rw [preview, previewChars_of_few long few]
  · rw [preview, previewChars_of_long long many, String.ofList_append]
  · exact preview_preview_eq_iff.mpr (previewChars_previewChars_of_le (Nat.le_refl most))
  · exact preview_preview_eq_iff.mpr ((previewChars_previewChars_iff le).mpr (.inr (.inl four)) s.toList)
  · rw [← previewChars_previewChars_iff le]
    constructor
    · intro same cs
      have text := preview_preview_eq_iff.mp (same (String.ofList cs))
      rwa [String.toList_ofList] at text
    · intro same t
      exact preview_preview_eq_iff.mpr (same t.toList)

/-- Of eight characters, five places show two, whether they are cut to six places before or not. Three places
show three, but not behind a cut to four places. -/
theorem preview_laws_twice :
    preview "日本語のテキスト" 5 = "日本..." ∧
    preview (preview "日本語のテキスト" 6) 5 = "日本..." ∧
    preview "日本語のテキスト" 3 = "日本語" ∧
    ¬ ∀ t, preview (preview t 4) 3 = preview t 3 := by
  obtain ⟨-, -, -, long, -⟩ := preview_laws "日本語のテキスト" 5
  obtain ⟨-, -, -, -, -, twice, -⟩ := preview_laws "日本語のテキスト" 6
  obtain ⟨-, -, few, -⟩ := preview_laws "日本語のテキスト" 3
  obtain ⟨-, -, -, -, -, -, widths⟩ := preview_laws "日本語のテキスト" 4
  have five : preview "日本語のテキスト" 5 = "日本..." := (long (by decide) (by decide)).trans (by decide)
  refine ⟨five, (twice 5 (by decide) (by decide)).trans five, (few (by decide) (by decide)).trans (by decide),
    fun same => ?_⟩
  have width := (widths 3 (by decide)).mp same
  omega

end AdminPanel.Text
