import AdminPanel.Proofs.Navigation.Going
import AdminPanel.Proofs.Text.Trimming

/-!
# Which path texts lead to a page

A path text is cut at its first query or fragment, trimmed of blanks, of slashes at its end, and of one
slash in front. The order decides what odd texts mean, so the texts of a page are described here as they
are, without any trimming (`Leads`), and resolving is shown to accept exactly these.

* **`Leads`** — the path texts of a page.
* **`leads_iff`** — they are the texts of which the same is left as of the path of the page.
* **`resolve_grammar`** — what a path text leads to, and which texts pass the guard without a session.
-/

namespace AdminPanel.Route

open Text (isBlank trimChars trimEndOf trimChars_eq_iff trimEndOf_eq_iff)

/-- The path proper: what stands in front of the first query or fragment. -/
def proper (s : String) : List Char := s.toList.takeWhile fun c => !endsPath c

/-- The path texts of a page: its name with at most one slash in front of it and any number behind it,
and blanks around that. The dashboard has no name, and any number of slashes. -/
inductive Leads : Route → List Char → Prop where
  | named (r : Route) (hasName : r ≠ .dashboard) {before slash slashes after : List Char}
      (blankBefore : ∀ c ∈ before, isBlank c = true) (one : slash = [] ∨ slash = ['/'])
      (onlySlashes : ∀ c ∈ slashes, c = '/') (blankAfter : ∀ c ∈ after, isBlank c = true) :
      Leads r (before ++ slash ++ r.name.toList ++ slashes ++ after)
  | dashboard {before slashes after : List Char} (blankBefore : ∀ c ∈ before, isBlank c = true)
      (onlySlashes : ∀ c ∈ slashes, c = '/') (blankAfter : ∀ c ∈ after, isBlank c = true) :
      Leads .dashboard (before ++ slashes ++ after)

/-! ## What is left of a path text -/

/-- What stays when blanks at both ends and then slashes at the end are dropped. -/
theorem trimmed_eq_iff {q kept : List Char} (first : ∀ c ∈ kept.head?, isBlank c = false)
    (last : ∀ c ∈ kept.getLast?, isBlank c = false ∧ c ≠ '/') :
    trimEndOf (· == '/') (trimChars q) = kept ↔
      ∃ before slashes after, (∀ c ∈ before, isBlank c = true) ∧ (∀ c ∈ slashes, c = '/') ∧
        (∀ c ∈ after, isBlank c = true) ∧ q = before ++ kept ++ slashes ++ after := by
  have slash : isBlank '/' = false := by decide
  rw [trimEndOf_eq_iff]
  constructor
  · rintro ⟨⟨slashes, onlySlashes, trimmed⟩, -⟩
    obtain ⟨⟨before, after, blankBefore, blankAfter, whole⟩, -⟩ := trimChars_eq_iff.mp trimmed
    exact ⟨before, slashes, after, blankBefore, by simpa using onlySlashes, blankAfter, by
      simp only [whole, List.append_assoc]⟩
  · rintro ⟨before, slashes, after, blankBefore, onlySlashes, blankAfter, rfl⟩
    refine ⟨⟨slashes, by simpa using onlySlashes, ?_⟩, fun c within => by simp [(last c within).2]⟩
    -- what is left by the outer trim ends in a slash or in `kept`, and neither is blank
    refine trimChars_eq_iff.mpr
      ⟨⟨before, after, blankBefore, blankAfter, by simp only [List.append_assoc]⟩, ?_, ?_⟩
    · intro c within
      rw [Option.mem_def, List.head?_append, Option.or_eq_some_iff] at within
      rcases within with inKept | ⟨-, inSlashes⟩
      · exact first c inKept
      · rw [onlySlashes c (List.mem_of_head? inSlashes)]
        exact slash
    · intro c within
      rw [Option.mem_def, List.getLast?_append, Option.or_eq_some_iff] at within
      rcases within with inSlashes | ⟨-, inKept⟩
      · rw [onlySlashes c (List.mem_of_getLast? inSlashes)]
        exact slash
      · exact (last c inKept).1

/-- What is left when the one slash in front has been dropped, too. -/
theorem strip_eq_iff {s : String} {kept : List Char} (noSlash : kept.head? ≠ some '/') :
    strip s.toList = kept ↔
      trimEndOf (· == '/') (trimChars (proper s)) = kept ∨
        trimEndOf (· == '/') (trimChars (proper s)) = '/' :: kept := by
  unfold strip proper
  generalize trimEndOf (· == '/') (trimChars (s.toList.takeWhile fun c => !endsPath c)) = trimmed
  dsimp only
  split
  · next rest =>
    constructor
    · rintro rfl
      exact .inr rfl
    · rintro (rfl | same)
      · exact absurd rfl noSlash
      · exact (List.cons.inj same).2
  · next noFront =>
    constructor
    · exact .inl
    · rintro (same | same)
      · exact same
      · exact absurd same (noFront _)

/-! ## The pages -/

/-- What is left of the path of a page: its name, or nothing for the dashboard. -/
theorem strip_path (r : Route) :
    strip r.path.toList = if r = .dashboard then [] else r.name.toList := by
  cases r <;> rfl

/-- The name of a page has neither blanks nor slashes. -/
theorem name_chars (r : Route) : ∀ c ∈ r.name.toList, isBlank c = false ∧ c ≠ '/' := by
  have all : r.name.toList.all (fun c => !isBlank c && c != '/') = true := by cases r <;> rfl
  simpa using all

/-- A path text leads to the page whose path leaves the same text. -/
theorem resolve_eq_some_iff {s : String} {r : Route} :
    resolve s = some r ↔ strip s.toList = strip r.path.toList := by
  constructor
  · intro found
    have same := List.find?_some found
    exact (beq_iff_eq.mp same).symm
  · intro same
    -- the page whose path is left with the same text is found for its own path
    rw [← resolve_path r, resolve, resolve, same]

theorem leads_dashboard_iff {q : List Char} :
    Leads .dashboard q ↔ trimEndOf (· == '/') (trimChars q) = [] := by
  rw [trimmed_eq_iff (by simp) (by simp)]
  constructor
  · intro leads
    cases leads with
    | named _ hasName => exact absurd rfl hasName
    | dashboard blankBefore onlySlashes blankAfter =>
      exact ⟨_, _, _, blankBefore, onlySlashes, blankAfter, by rw [List.append_nil]⟩
  · rintro ⟨before, slashes, after, blankBefore, onlySlashes, blankAfter, rfl⟩
    rw [List.append_nil]
    exact .dashboard blankBefore onlySlashes blankAfter

theorem leads_named_iff {r : Route} (hasName : r ≠ .dashboard) {q : List Char} :
    Leads r q ↔ trimEndOf (· == '/') (trimChars q) = r.name.toList ∨
      trimEndOf (· == '/') (trimChars q) = '/' :: r.name.toList := by
  have last : ∀ c ∈ r.name.toList.getLast?, isBlank c = false ∧ c ≠ '/' :=
    fun c within => r.name_chars c (List.mem_of_getLast? within)
  have first : ∀ c ∈ r.name.toList.head?, isBlank c = false :=
    fun c within => (r.name_chars c (List.mem_of_head? within)).1
  -- a name with a slash in front is trimmed as the name is: its first character is no blank, its last no
  -- slash
  have lastBehind : ∀ c ∈ ('/' :: r.name.toList).getLast?, isBlank c = false ∧ c ≠ '/' := by
    have some' : r.name.toList ≠ [] := by cases r <;> decide
    rwa [List.getLast?_cons_of_ne_nil some']
  rw [trimmed_eq_iff first last, trimmed_eq_iff (by simp [isBlank]) lastBehind]
  constructor
  · intro leads
    cases leads with
    | dashboard => exact absurd rfl hasName
    | named _ _ blankBefore one onlySlashes blankAfter =>
      rcases one with rfl | rfl
      · exact .inl ⟨_, _, _, blankBefore, onlySlashes, blankAfter, by rw [List.append_nil]⟩
      · exact .inr ⟨_, _, _, blankBefore, onlySlashes, blankAfter, by simp⟩
  · rintro (⟨before, slashes, after, blankBefore, onlySlashes, blankAfter, rfl⟩ |
      ⟨before, slashes, after, blankBefore, onlySlashes, blankAfter, rfl⟩)
    · have leads := Leads.named r hasName blankBefore (.inl rfl) onlySlashes blankAfter
      rwa [List.append_nil] at leads
    · have leads := Leads.named r hasName blankBefore (.inr rfl) onlySlashes blankAfter
      simpa using leads

/-- The path texts of a page are those of which the same is left as of its path. -/
theorem leads_iff {s : String} {r : Route} :
    Leads r (proper s) ↔ strip s.toList = strip r.path.toList := by
  rw [strip_path]
  by_cases dashboard : r = .dashboard
  · -- nothing that has been trimmed at the end is a slash alone
    have noSlash : trimEndOf (· == '/') (trimChars (proper s)) ≠ ['/'] := by
      intro same
      have last := (trimEndOf_eq_iff.mp same).2 '/' rfl
      cases last
    rw [if_pos dashboard, strip_eq_iff (by simp), or_iff_left noSlash, dashboard,
      leads_dashboard_iff]
  · have front : r.name.toList.head? ≠ some '/' :=
      fun same => (r.name_chars '/' (List.mem_of_head? same)).2 rfl
    rw [if_neg dashboard, strip_eq_iff front, leads_named_iff dashboard]

/-! ## Resolving -/

/-- What stands behind a query or a fragment does not belong to the path proper. -/
theorem proper_append (s : String) {mark : Char} (ends : endsPath mark = true) (rest : List Char) :
    proper (s ++ String.ofList (mark :: rest)) = proper s := by
  rw [proper, proper, String.toList_append, String.toList_ofList]
  induction s.toList with
  | nil => simp [ends]
  | cons c cs ih =>
    rw [List.cons_append, List.takeWhile_cons, List.takeWhile_cons, ih]

/-- **A path text leads to a page exactly if it is one of its texts**, and to none if it is a text of
none; no text is one of two pages. Nothing counts that stands behind a question mark or a hash. Without a
session the guard lets the texts of the login page through, and no other. -/
theorem resolve_grammar (s : String) :
    (∀ r, resolve s = some r ↔ Leads r (proper s)) ∧
    (resolve s = none ↔ ∀ r, ¬ Leads r (proper s)) ∧
    (∀ r r', Leads r (proper s) → Leads r' (proper s) → r = r') ∧
    (∀ mark rest, mark = '?' ∨ mark = '#' →
      resolve (s ++ String.ofList (mark :: rest)) = resolve s) ∧
    (∀ store, ¬ Session.HasToken store →
      (Guard.decide store (resolve s) = .allowed ↔ Leads .login (proper s))) := by
  have leads {s : String} (r : Route) : resolve s = some r ↔ Leads r (proper s) := by
    rw [resolve_eq_some_iff, leads_iff]
  refine ⟨leads, ?_, ?_, ?_, ?_⟩
  · rw [Option.eq_none_iff_forall_ne_some]
    exact forall_congr' fun r => not_congr (leads r)
  · intro r r' first second
    exact Option.some.inj (((leads r).mpr first).symm.trans ((leads r').mpr second))
  · intro mark rest ends
    refine Option.ext fun r => ?_
    rw [leads, leads, proper_append s (by rcases ends with rfl | rfl <;> rfl)]
  · intro store closed
    rw [Guard.decide_eq_allowed_iff, or_iff_left closed, leads]

-- two slashes in front of a name, a slash behind its last blank, and a blank behind the slashes
example : resolve "//login" = none := by decide +kernel
example : resolve "/users /" = none := by decide +kernel
example : resolve "/ ?x" = some .dashboard := by decide +kernel

end AdminPanel.Route
