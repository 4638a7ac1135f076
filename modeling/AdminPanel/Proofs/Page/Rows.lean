import Mathlib.Data.List.Forall2
import AdminPanel.Page.Text
import AdminPanel.Proofs.Text.Excerpting
import AdminPanel.Proofs.Text.Lines
import AdminPanel.Proofs.Time.Showing

/-!
# One row each

Deliveries and roles stand in tables, one row each, and what is in a row comes from the server.

* **`LogEntry.IsRow`**, **`logs_one_line_each`** — the row of a delivery is one line whatever was sent, since
  spaces stand for the newlines of its content.
* **`Role.IsRow`**, **`roles_one_line_each`** — the rows of roles are lines exactly if no newline is shown of
  any name and any description: nothing replaces them.
* **`roles_forged`** — so the description of one role can write the row of another.
-/

namespace AdminPanel.Page

open Text
open Time (timeText)

variable {row : String}

theorem newline_not_mem_toDigits (n : Nat) : '\n' ∉ Nat.toDigits 10 n := fun within =>
  absurd (Nat.isDigit_of_mem_toDigits (by decide) (by decide) within) (by decide)

theorem atRight_number (width n : Nat) :
    AtRight width (Nat.toDigits 10 n) (padLeft width (toString n)).toList := by
  have h := atRight_padLeft width (toString n)
  rwa [Nat.toString_eq_ofList_toDigits, String.toList_ofList] at h

/-! ## Deliveries -/

/-- The row of a delivery: its number at the right of eight places, its time, who sent it, and what eighty
characters show of its content, a space for each newline. -/
inductive LogEntry.IsRow (e : LogEntry) (row : String) : Prop where
  | mk {number sender shown : List Char} (hnumber : AtRight 8 (Nat.toDigits 10 e.msgId.toNat) number)
    (hsender : AtLeft 12 e.sender.toList sender)
    (hshown : Previews 80 (e.content.toList.map fun c => if c = '\n' then ' ' else c) shown)
    (layout : row.toList = number ++ ' ' :: ' ' :: (timeText e.time).toList ++ ' ' :: ' ' :: sender ++
      ' ' :: ' ' :: shown)

namespace LogEntry

variable {e : LogEntry}

theorem newline_not_mem_sender (e : LogEntry) : '\n' ∉ e.sender.toList := by
  unfold sender
  split
  · decide
  · split
    · rw [Nat.toString_eq_ofList_toDigits, String.toList_ofList]
      exact newline_not_mem_toDigits _
    · decide

theorem IsRow.newline_not_mem (h : e.IsRow row) : '\n' ∉ row.toList := by
  obtain ⟨hnumber, hsender, hshown, layout⟩ := h
  have number := hnumber.not_mem (by decide) (newline_not_mem_toDigits _)
  have sender := hsender.not_mem (by decide) e.newline_not_mem_sender
  have shown : '\n' ∉ _ := fun within => by
    rcases hshown.mem within with flat | point
    · -- a space stands where a newline was
      obtain ⟨c, -, same⟩ := List.mem_map.mp flat
      split at same <;> simp_all
    · exact absurd point (by decide)
  rw [layout]
  simp [number, Time.newline_not_mem_timeText, sender, shown]

/-- The text of a delivery is its row on a line. -/
theorem exists_isRow (e : LogEntry) : ∃ row, e.IsRow row ∧ e.text = row ++ "\n" := by
  have hshown := previews_preview (oneLine e.content) (by decide : 3 < 80)
  rw [oneLine, String.toList_ofList] at hshown
  refine ⟨_, .mk (atRight_number 8 _) (atLeft_padRight 12 e.sender) hshown ?_, rfl⟩
  simp [oneLine, logPreviewWidth]

theorem exists_rows (entries : List LogEntry) :
    ∃ rows, List.Forall₂ IsRow entries rows ∧ HasLines (String.join (entries.map text)) rows := by
  induction entries with
  | nil => exact ⟨[], .nil, rfl, nofun⟩
  | cons e entries ih =>
    obtain ⟨row, isRow, whole⟩ := e.exists_isRow
    obtain ⟨rows, areRows, behind⟩ := ih
    refine ⟨row :: rows, .cons isRow areRows, ?_⟩
    rw [List.map_cons, String.join_cons, whole]
    exact (hasLines_singleton isRow.newline_not_mem).append behind

end LogEntry

/-- **One line for each delivery.** Whatever the server sends, the log has the line that counts the
deliveries, the row of each of them in their order, and a last line if there were more; and these are the
lines of its text in the only way of taking it apart. -/
theorem logs_one_line_each (l : Logs) :
    ∃ header rows,
      header = toString l.entries.length ++ " messages since " ++ timeText (some l.since) ∧
      List.Forall₂ LogEntry.IsRow l.entries rows ∧
      (∀ lines, HasLines (Data.logs l).text lines ↔
        lines = header :: rows ++ if l.truncated then ["(more messages not shown)"] else []) ∧
      (Data.logs l).text.toList.count '\n' = 1 + l.entries.length + if l.truncated then 1 else 0 := by
  obtain ⟨rows, areRows, middle⟩ := LogEntry.exists_rows l.entries
  have header : '\n' ∉ (toString l.entries.length ++ " messages since " ++
      timeText (some l.since)).toList := by
    simp [newline_not_mem_toDigits, Time.newline_not_mem_timeText]
  have last : HasLines (if l.truncated then line "(more messages not shown)" else "")
      (if l.truncated then ["(more messages not shown)"] else []) := by
    split
    · exact hasLines_singleton (by decide)
    · exact ⟨rfl, nofun⟩
  have whole : HasLines (Data.logs l).text _ := ((hasLines_singleton header).append middle).append last
  refine ⟨_, rows, rfl, areRows, fun lines => whole.iff_eq, ?_⟩
  rw [whole.count_newline, List.length_append, List.length_append, List.length_singleton,
    areRows.length_eq]
  split <;> rfl

/-! ## Roles -/

/-- The row of a role: its number at the right of four places, what twenty characters show of its name in as
many places, and what fifty show of its description. -/
inductive Role.IsRow (r : Role) (row : String) : Prop where
  | mk {number shown name description : List Char} (hnumber : AtRight 4 (Nat.toDigits 10 r.id.toNat) number)
    (hshown : Previews 20 r.name.toList shown) (hname : AtLeft 20 shown name)
    (hdescription : Previews 50 r.description.toList description)
    (layout : row.toList = number ++ ' ' :: ' ' :: name ++ ' ' :: ' ' :: description)

namespace Role

/-- The newlines that are shown of a role. -/
def breaks (r : Role) : Nat :=
  (preview r.name 20).toList.count '\n' + (preview r.description 50).toList.count '\n'

/-- The text of a role is its row on a line, but for the newlines that are shown. -/
theorem exists_isRow (r : Role) :
    ∃ row, r.IsRow row ∧ r.text = row ++ "\n" ∧ row.toList.count '\n' = r.breaks := by
  have hnumber := atRight_number 4 r.id.toNat
  have hname := atLeft_padRight 20 (preview r.name 20)
  have hshown := previews_preview r.name (by decide : 3 < 20)
  have hdescription := previews_preview r.description (by decide : 3 < 50)
  have number := List.count_eq_zero.mpr (hnumber.not_mem (by decide) (newline_not_mem_toDigits _))
  have name := hname.count (c := '\n') (by decide)
  refine ⟨_, .mk hnumber hshown hname hdescription ?_, rfl, ?_⟩
  · simp
  · have blanks : "  ".toList.count '\n' = 0 := rfl
    simp only [String.toList_append, List.count_append, number, name, blanks, breaks, Nat.zero_add,
      Nat.add_zero]

theorem exists_rows (roles : List Role) :
    ∃ rows, List.Forall₂ IsRow roles rows ∧
      String.join (roles.map text) = String.join (rows.map (· ++ "\n")) ∧
      rows.map (·.toList.count '\n') = roles.map breaks := by
  induction roles with
  | nil => exact ⟨[], .nil, rfl, rfl⟩
  | cons r roles ih =>
    obtain ⟨row, isRow, whole, count⟩ := r.exists_isRow
    obtain ⟨rows, areRows, behind, counts⟩ := ih
    refine ⟨row :: rows, .cons isRow areRows, ?_, ?_⟩
    · simp only [List.map_cons, String.join_cons, whole, behind]
    · rw [List.map_cons, List.map_cons, count, counts]

end Role

/-- **The rows of roles.** The text of some roles is their rows in their order, a newline behind each. It
has one line more for each newline that is shown of a name or a description; so its lines are the rows
exactly if there is none. -/
theorem roles_one_line_each {roles : List Role} (some' : roles ≠ []) :
    ∃ rows, List.Forall₂ Role.IsRow roles rows ∧
      (Data.users roles).text = String.join (rows.map (· ++ "\n")) ∧
      (Data.users roles).text.toList.count '\n' = roles.length + (roles.map Role.breaks).sum ∧
      ((∀ lines, HasLines (Data.users roles).text lines ↔ lines = rows) ↔
        ∀ r ∈ roles, r.breaks = 0) := by
  obtain ⟨rows, areRows, text, counts⟩ := Role.exists_rows roles
  have whole : (Data.users roles).text = String.join (rows.map (· ++ "\n")) := by
    rw [← text, Data.text, rolesText, if_neg (by simpa using some')]
  have breaks := count_newline_join rows
  rw [← whole, counts, ← areRows.length_eq] at breaks
  refine ⟨rows, areRows, whole, breaks, ?_⟩
  constructor
  · intro own r within
    have lines := ((own rows).mpr rfl).count_newline
    rw [breaks, ← areRows.length_eq, Nat.add_eq_left] at lines
    exact List.sum_eq_zero_iff_forall_eq_nat.mp lines _ (List.mem_map_of_mem within)
  · intro none
    refine fun lines => HasLines.iff_eq ⟨whole, fun row within => List.count_eq_zero.mp ?_⟩
    have count : row.toList.count '\n' ∈ roles.map Role.breaks :=
      counts ▸ List.mem_map_of_mem (f := (·.toList.count '\n')) within
    obtain ⟨r, role, same⟩ := List.mem_map.mp count
    rw [← same, none r role]

/-- Two rows, and three lines: a newline is shown of the name of the second role. -/
theorem roles_one_line_each_broken :
    ∃ rows, List.Forall₂ Role.IsRow [⟨1, "admin", "Full access", [1, 2]⟩, ⟨20, "a\nb", "", []⟩] rows ∧
      rows.length = 2 ∧
      (Data.users [⟨1, "admin", "Full access", [1, 2]⟩, ⟨20, "a\nb", "", []⟩]).text.toList.count '\n' = 3 ∧
      ¬ HasLines (Data.users [⟨1, "admin", "Full access", [1, 2]⟩, ⟨20, "a\nb", "", []⟩]).text rows := by
  obtain ⟨rows, areRows, -, breaks, -⟩ :=
    @roles_one_line_each [⟨1, "admin", "Full access", [1, 2]⟩, ⟨20, "a\nb", "", []⟩] (by simp)
  have three := breaks.trans (by decide : _ = 3)
  refine ⟨rows, areRows, areRows.length_eq.symm, three, fun lines => ?_⟩
  have two := lines.count_newline
  rw [three, ← areRows.length_eq] at two
  cases two

/-- Not every text of roles has one line for each: the description of one role can write the row of
another, so that the same text stands for both roles. -/
theorem roles_forged :
    (Data.users [⟨1, "admin", "x\n   2  root                  y", []⟩]).text =
      (Data.users [⟨1, "admin", "x", []⟩, ⟨2, "root", "y", []⟩]).text ∧
    ¬ ∀ roles : List Role, roles ≠ [] →
      ∃ rows, List.Forall₂ Role.IsRow roles rows ∧ HasLines (Data.users roles).text rows := by
  refine ⟨by decide, fun all => ?_⟩
  obtain ⟨rows, areRows, lines⟩ := all [⟨1, "admin", "x\n   2  root                  y", []⟩] (by simp)
  have two := lines.count_newline
  rw [← areRows.length_eq] at two
  exact absurd two (by decide)

end AdminPanel.Page
