import Mathlib.Algebra.Ring.Nat
import Mathlib.Data.String.Basic
import AdminPanel.Text.Padding

/-!
# Lines and fields

A text consists of lines if they stand one behind the other, each ended by a newline. If no line holds a
newline itself, there is no second way of taking the text apart, so that what is put on a line can neither
add a line nor hide one.

* **`HasLines`**, **`HasLines.iff_eq`** — the lines of a text, and that they are its only ones.
* **`count_newline_join`** — where lines do hold newlines, each of these is one line more.
* **`AtRight`**, **`AtLeft`** — words in fields of a table. A field adds blanks and nothing else.
-/

namespace AdminPanel.Text

/-! ## Lines -/

/-- The text consists of these lines: each is ended by a newline, and none holds one. -/
structure HasLines (text : String) (lines : List String) : Prop where
  whole : text = String.join (lines.map (· ++ "\n"))
  unbroken : ∀ l ∈ lines, '\n' ∉ l.toList

variable {text text' l : String} {lines lines' : List String}

theorem hasLines_singleton (h : '\n' ∉ l.toList) : HasLines (l ++ "\n") [l] := by
  refine ⟨by simp, fun m within => ?_⟩
  rw [List.mem_singleton.mp within]
  exact h

theorem HasLines.append (h : HasLines text lines) (h' : HasLines text' lines') :
    HasLines (text ++ text') (lines ++ lines') where
  whole := by rw [h.whole, h'.whole, List.map_append, String.join_append]
  unbroken := List.forall_mem_append.mpr ⟨h.unbroken, h'.unbroken⟩

/-- Of two texts that are the same, what stands in front of the first character out of a class is the same,
and so are that character and what follows it. -/
theorem eq_of_append_cons {p : Char → Bool} {l m r s : List Char} {c d : Char} (hl : ∀ x ∈ l, p x = true)
    (hm : ∀ x ∈ m, p x = true) (hc : p c = false) (hd : p d = false)
    (same : l ++ c :: r = m ++ d :: s) : l = m ∧ c = d ∧ r = s := by
  have front := congrArg (List.takeWhile p) same
  have behind := congrArg (List.dropWhile p) same
  have stop : ¬ p c = true := by rw [hc]; decide
  have stop' : ¬ p d = true := by rw [hd]; decide
  rw [List.takeWhile_append_of_pos hl, List.takeWhile_append_of_pos hm, List.takeWhile_cons_of_neg stop,
    List.takeWhile_cons_of_neg stop', List.append_nil, List.append_nil] at front
  rw [List.dropWhile_append_of_pos hl, List.dropWhile_append_of_pos hm, List.dropWhile_cons_of_neg stop,
    List.dropWhile_cons_of_neg stop'] at behind
  exact ⟨front, List.cons.inj behind⟩

/-- A text has its lines in one way. -/
theorem HasLines.unique (h : HasLines text lines) (h' : HasLines text lines') : lines = lines' := by
  -- line by line: each of the two has the first newline of the text at the end of its first line
  induction lines generalizing text lines' with
  | nil =>
    cases lines' with
    | nil => rfl
    | cons m lines' => simpa using congrArg String.toList (h.whole.symm.trans h'.whole)
  | cons l lines ih =>
    cases lines' with
    | nil => simpa using congrArg String.toList (h.whole.symm.trans h'.whole)
    | cons m lines' =>
      obtain ⟨hl, unbroken⟩ := List.forall_mem_cons.mp h.unbroken
      obtain ⟨hm, unbroken'⟩ := List.forall_mem_cons.mp h'.unbroken
      have same := congrArg String.toList (h.whole.symm.trans h'.whole)
      simp only [List.map_cons, String.join_cons, String.toList_append, List.append_assoc] at same
      have inLine {l : List Char} (h : '\n' ∉ l) : ∀ x ∈ l, (x != '\n') = true := fun x within =>
        bne_iff_ne.mpr fun newline => h (newline ▸ within)
      obtain ⟨first, -, rest⟩ := eq_of_append_cons (inLine hl) (inLine hm) rfl rfl same
      rw [String.toList_inj.mp first, ih ⟨rfl, unbroken⟩ ⟨String.toList_inj.mp rest, unbroken'⟩]

/-- **The lines of a text are its only ones.** -/
theorem HasLines.iff_eq (h : HasLines text lines) : HasLines text lines' ↔ lines' = lines :=
  ⟨fun h' => h'.unique h, fun same => same ▸ h⟩

/-- The newlines of texts that are put on lines: one behind each, and those of the texts. -/
theorem count_newline_join (lines : List String) :
    (String.join (lines.map (· ++ "\n"))).toList.count '\n' =
      lines.length + (lines.map (·.toList.count '\n')).sum := by
  induction lines with
  | nil => rfl
  | cons l lines ih =>
    have newline : "\n".toList.count '\n' = 1 := rfl
    simp only [List.map_cons, String.join_cons, String.toList_append, List.count_append, ih, newline,
      List.length_cons, List.sum_cons]
    omega

theorem HasLines.count_newline (h : HasLines text lines) : text.toList.count '\n' = lines.length := by
  have none : (lines.map (·.toList.count '\n')).sum = 0 := by
    refine List.sum_eq_zero_iff_forall_eq_nat.mpr fun n within => ?_
    obtain ⟨l, line, rfl⟩ := List.mem_map.mp within
    exact List.count_eq_zero.mpr (h.unbroken l line)
  rw [h.whole, count_newline_join, none, Nat.add_zero]

/-! ## Fields -/

/-- A word at the right of a field: blanks, as many as it takes to fill the field, and the word. -/
structure AtRight (width : Nat) (word field : List Char) : Prop where
  blanks : ∃ n, field = List.replicate n ' ' ++ word
  filled : field.length = max width word.length

/-- A word at the left of a field. -/
structure AtLeft (width : Nat) (word field : List Char) : Prop where
  blanks : ∃ n, field = word ++ List.replicate n ' '
  filled : field.length = max width word.length

variable {width : Nat} {word field : List Char} {c : Char}

theorem atRight_padLeft (width : Nat) (s : String) :
    AtRight width s.toList (padLeft width s).toList := by
  rw [padLeft, Field.set, String.toList_ofList]
  exact ⟨⟨_, rfl⟩, Field.length_setChars _ _⟩

theorem atLeft_padRight (width : Nat) (s : String) :
    AtLeft width s.toList (padRight width s).toList := by
  rw [padRight, Field.set, String.toList_ofList]
  exact ⟨⟨_, rfl⟩, Field.length_setChars _ _⟩

theorem count_replicate_blank (h : c ≠ ' ') (n : Nat) : (List.replicate n ' ').count c = 0 :=
  List.count_eq_zero.mpr fun within => h (List.eq_of_mem_replicate within)

theorem AtRight.count (h : AtRight width word field) (notBlank : c ≠ ' ') :
    field.count c = word.count c := by
  obtain ⟨n, rfl⟩ := h.blanks
  rw [List.count_append, count_replicate_blank notBlank, Nat.zero_add]

theorem AtRight.not_mem (h : AtRight width word field) (notBlank : c ≠ ' ') (absent : c ∉ word) :
    c ∉ field := by
  rw [← List.count_eq_zero, h.count notBlank]
  exact List.count_eq_zero.mpr absent

theorem AtLeft.count (h : AtLeft width word field) (notBlank : c ≠ ' ') :
    field.count c = word.count c := by
  obtain ⟨n, rfl⟩ := h.blanks
  rw [List.count_append, count_replicate_blank notBlank, Nat.add_zero]

theorem AtLeft.not_mem (h : AtLeft width word field) (notBlank : c ≠ ' ') (absent : c ∉ word) :
    c ∉ field := by
  rw [← List.count_eq_zero, h.count notBlank]
  exact List.count_eq_zero.mpr absent

end AdminPanel.Text
