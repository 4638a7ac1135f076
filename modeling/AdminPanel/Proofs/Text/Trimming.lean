import Mathlib.Data.List.DropRight
import AdminPanel.Text.Blank

/-!
# What trimming leaves

Trimming drops characters of a kind and stops at the first that is of another. So what it leaves can be
told without the loop that drops: it is the one text with such a character at its end, or at both, around
which nothing but characters of the kind has stood (`trimStartOf_eq_iff`, `trimEndOf_eq_iff`,
`trimChars_eq_iff`). In particular trimming twice changes nothing (`trim_trim`).
-/

namespace AdminPanel.Text

variable {p : Char → Bool} {cs kept : List Char}

theorem trimStartOf_of_head? (h : ∀ c ∈ cs.head?, p c = false) : trimStartOf p cs = cs := by
  cases cs with
  | nil => rfl
  | cons c cs => simp [trimStartOf, h c (by simp)]

theorem trimStartOf_eq_iff :
    trimStartOf p cs = kept ↔
      (∃ dropped, (∀ c ∈ dropped, p c = true) ∧ cs = dropped ++ kept) ∧
        ∀ c ∈ kept.head?, p c = false := by
  constructor
  · rintro rfl
    refine ⟨⟨cs.takeWhile p, fun c => List.mem_takeWhile_imp, List.takeWhile_append_dropWhile.symm⟩,
      fun c first => ?_⟩
    have stops := List.head?_dropWhile_not p cs
    rw [show cs.dropWhile p = trimStartOf p cs from rfl, Option.mem_def.mp first] at stops
    simpa using stops
  · rintro ⟨⟨dropped, drops, rfl⟩, first⟩
    rw [trimStartOf, List.dropWhile_append_of_pos drops]
    exact trimStartOf_of_head? first

/-! ## The end of a text -/

theorem trimEndOf_concat (p : Char → Bool) (cs : List Char) (c : Char) :
    trimEndOf p (cs ++ [c]) = if p c then trimEndOf p cs else cs ++ [c] := by
  induction cs with
  | nil => rfl
  | cons d ds ih =>
    rw [List.cons_append, trimEndOf, ih]
    by_cases h : p c = true
    · simp only [h, ↓reduceIte]
      rfl
    · simp only [h, Bool.false_eq_true, ↓reduceIte]
      cases ds <;> rfl

/-- Trimming the end is trimming the start, seen from the other side. -/
theorem trimEndOf_eq (p : Char → Bool) (cs : List Char) :
    trimEndOf p cs = (trimStartOf p cs.reverse).reverse := by
  show _ = cs.rdropWhile p
  induction cs using List.reverseRecOn with
  | nil => rfl
  | append_singleton cs c ih => rw [trimEndOf_concat, List.rdropWhile_concat, ih]

theorem trimEndOf_eq_iff :
    trimEndOf p cs = kept ↔
      (∃ dropped, (∀ c ∈ dropped, p c = true) ∧ cs = kept ++ dropped) ∧
        ∀ c ∈ kept.getLast?, p c = false := by
  rw [trimEndOf_eq, List.reverse_eq_iff, trimStartOf_eq_iff, List.head?_reverse]
  refine and_congr_left fun _ => ?_
  constructor
  · rintro ⟨dropped, drops, same⟩
    exact ⟨dropped.reverse, fun c within => drops c (List.mem_reverse.mp within), by
      rw [← List.reverse_reverse cs, same]
      simp⟩
  · rintro ⟨dropped, drops, rfl⟩
    exact ⟨dropped.reverse, fun c within => drops c (List.mem_reverse.mp within), by simp⟩

/-- Trimming at the end leaves a start of the text. -/
theorem trimEndOf_prefix (p : Char → Bool) (cs : List Char) : trimEndOf p cs <+: cs := by
  obtain ⟨⟨dropped, -, same⟩, -⟩ := trimEndOf_eq_iff.mp (rfl : trimEndOf p cs = _)
  exact ⟨dropped, same.symm⟩

/-! ## Blanks at both ends -/

/-- **Trimming** leaves the one text without blanks at its ends around which nothing but blanks has
stood. -/
theorem trimChars_eq_iff :
    trimChars cs = kept ↔
      (∃ before after, (∀ c ∈ before, isBlank c = true) ∧ (∀ c ∈ after, isBlank c = true) ∧
        cs = before ++ kept ++ after) ∧
      (∀ c ∈ kept.head?, isBlank c = false) ∧ ∀ c ∈ kept.getLast?, isBlank c = false := by
  constructor
  · intro trimmed
    obtain ⟨⟨after, blankAfter, rest⟩, last⟩ := trimEndOf_eq_iff.mp trimmed
    obtain ⟨⟨before, blankBefore, whole⟩, first⟩ := trimStartOf_eq_iff.mp rest
    refine ⟨⟨before, after, blankBefore, blankAfter, by rw [whole, List.append_assoc]⟩, ?_, last⟩
    -- where nothing is kept the first trim has taken all, and has nothing left for the second
    cases kept with
    | nil => simp
    | cons d ds => exact first
  · rintro ⟨⟨before, after, blankBefore, blankAfter, rfl⟩, first, last⟩
    cases kept with
    | nil =>
      have blank : ∀ c ∈ before ++ [] ++ after, isBlank c = true := by
        simp only [List.append_nil, List.forall_mem_append]
        exact ⟨blankBefore, blankAfter⟩
      have nothing : trimStartOf isBlank (before ++ [] ++ after) = [] :=
        List.dropWhile_eq_nil_iff.mpr blank
      rw [trimChars, nothing]
      rfl
    | cons d ds =>
      have start : trimStartOf isBlank (before ++ d :: ds ++ after) = d :: ds ++ after :=
        trimStartOf_eq_iff.mpr ⟨⟨before, blankBefore, List.append_assoc _ _ _⟩, first⟩
      rw [trimChars, start]
      exact trimEndOf_eq_iff.mpr ⟨⟨after, blankAfter, rfl⟩, last⟩

theorem trimChars_trimChars (cs : List Char) : trimChars (trimChars cs) = trimChars cs := by
  obtain ⟨-, first, last⟩ := trimChars_eq_iff.mp (rfl : trimChars cs = _)
  exact trimChars_eq_iff.mpr ⟨⟨[], [], nofun, nofun, by simp⟩, first, last⟩

/-- Blanks around a text do not count. -/
theorem trimChars_append {before after : List Char} (blankBefore : ∀ c ∈ before, isBlank c = true)
    (blankAfter : ∀ c ∈ after, isBlank c = true) (cs : List Char) :
    trimChars (before ++ cs ++ after) = trimChars cs := by
  obtain ⟨⟨left, right, blankLeft, blankRight, whole⟩, first, last⟩ :=
    trimChars_eq_iff.mp (rfl : trimChars cs = _)
  refine trimChars_eq_iff.mpr ⟨⟨before ++ left, right ++ after, ?_, ?_, ?_⟩, first, last⟩
  · exact List.forall_mem_append.mpr ⟨blankBefore, blankLeft⟩
  · exact List.forall_mem_append.mpr ⟨blankRight, blankAfter⟩
  · calc before ++ cs ++ after = before ++ (left ++ trimChars cs ++ right) ++ after := by rw [← whole]
      _ = before ++ left ++ trimChars cs ++ (right ++ after) := by simp only [List.append_assoc]

/-- A character that is no blank stays, and so does what stands in front of it, if it ends in none. -/
theorem trimChars_concat {cs : List Char} {d : Char} (ends : ∀ c ∈ cs.getLast?, isBlank c = false)
    (full : isBlank d = false) : trimChars (cs ++ [d]) = trimChars cs ++ [d] := by
  obtain ⟨⟨left, right, blankLeft, blankRight, whole⟩, first, -⟩ :=
    trimChars_eq_iff.mp (rfl : trimChars cs = _)
  generalize trimChars cs = kept at whole first ⊢
  subst whole
  -- the blanks at the end of `cs` are none, so that the new character joins what is kept
  have nothing : right = [] := by
    rcases right.eq_nil_or_concat with rfl | ⟨front, c, rfl⟩
    · rfl
    · have blank := blankRight c (by simp)
      rw [ends c (by simp)] at blank
      cases blank
  subst nothing
  refine trimChars_eq_iff.mpr ⟨⟨left, [], blankLeft, nofun, by simp⟩, fun c within => ?_, ?_⟩
  · rw [Option.mem_def, List.head?_append, Option.or_eq_some_iff] at within
    rcases within with inKept | ⟨-, last⟩
    · exact first c inKept
    · cases last
      exact full
  · simpa using full

@[simp] theorem trim_trim (s : String) : trim (trim s) = trim s := by
  simp [trim, trimChars_trimChars]

end AdminPanel.Text
