import Mathlib.Data.List.TakeWhile
import AdminPanel.Address.Base
import AdminPanel.Proofs.Text.Trimming

/-!
# Paths of methods below a prefix

The prefix of every base address consists of characters that may stand in a path (`pathPrefix_of_parse`),
and so do the names of services and methods. Put together they are read as one path, without a query and
without a rest, so that the path of a method is the prefix with both names behind it
(`methodPath_of_pathChars`).
-/

namespace AdminPanel.Address

variable {cs : List Char} {s path : String} {query : Option String} {uri : Uri} {base : Base}

/-- A text of characters that may stand in a path. -/
def IsPathText (s : String) : Prop := s.toList.all isPathChar = true

instance (s : String) : Decidable (IsPathText s) :=
  inferInstanceAs (Decidable (s.toList.all isPathChar = true))

theorem isPathText_empty : IsPathText "" := by decide

theorem isPathText_append {s t : String} (hs : IsPathText s) (ht : IsPathText t) :
    IsPathText (s ++ t) := by
  rw [IsPathText, String.toList_append, List.all_append, hs, ht]
  rfl

/-! ## What is read as a path -/

theorem isPathText_of_pathAndQuery (h : pathAndQuery cs = .ok (path, query)) : IsPathText path := by
  unfold pathAndQuery at h
  simp only at h
  split at h
  · cases h
  · next valid =>
    have valid : (cs.takeWhile fun c => c != '?' && c != '#').all isPathChar = true := by
      simpa using valid
    split at h
    · split at h
      · cases h
        rw [IsPathText, String.toList_ofList]
        exact valid
      · cases h
    · cases h
      rw [IsPathText, String.toList_ofList]
      exact valid

/-- A text of path characters is read as a path, as a whole. -/
theorem pathAndQuery_of_all (h : cs.all isPathChar = true) :
    pathAndQuery cs = .ok (String.ofList cs, none) := by
  have whole : cs.takeWhile (fun c => c != '?' && c != '#') = cs := by
    refine List.takeWhile_eq_self_iff.mpr fun c within => ?_
    have valid : isPathChar c = true := List.all_eq_true.mp h c within
    -- neither of the two is a path character
    have noQuery : c ≠ '?' := by
      rintro rfl
      exact absurd valid (by decide)
    have noFragment : c ≠ '#' := by
      rintro rfl
      exact absurd valid (by decide)
    simp [noQuery, noFragment]
  rw [pathAndQuery]
  simp only [whole, h, List.drop_length]
  rfl

/-! ## What is read as an address -/

/-- A computation of two parts succeeds if both do. -/
theorem bind_eq_ok {α β : Type} {r : Except UriFault α} {f : α → Except UriFault β} {b : β} :
    (r >>= f) = .ok b ↔ ∃ a, r = .ok a ∧ f a = .ok b := by
  cases r with
  | error e => simp [bind, Except.bind]
  | ok a => simp [bind, Except.bind]

theorem isPathText_of_parseFull (h : parseFull cs = .ok uri) : IsPathText uri.path := by
  obtain ⟨part, -, h⟩ := bind_eq_ok.mp h
  split at h
  -- without a scheme
  · obtain ⟨⟨authority, rest⟩, -, h⟩ := bind_eq_ok.mp h
    simp only at h
    split at h
    · cases h
      exact isPathText_empty
    · cases h
  · split at h
    · cases h
    · obtain ⟨⟨authority, rest⟩, -, h⟩ := bind_eq_ok.mp h
      simp only at h
      split at h
      · cases h
      · obtain ⟨found, read, h⟩ := bind_eq_ok.mp h
        cases h
        exact isPathText_of_pathAndQuery read

theorem isPathText_of_parse (h : Uri.parse s = .ok uri) : IsPathText uri.path := by
  -- either the address is a single mark or an authority alone, or its path was read as one
  unfold Uri.parse at h
  split at h
  · cases h
  · split at h
    · cases h
    · cases h
      decide
    · cases h
      decide
    · obtain ⟨⟨authority, rest⟩, -, h⟩ := bind_eq_ok.mp h
      simp only at h
      split at h
      · cases h
        exact isPathText_empty
      · cases h
    · obtain ⟨found, read, h⟩ := bind_eq_ok.mp h
      cases h
      exact isPathText_of_pathAndQuery read
    · exact isPathText_of_parseFull h

/-- **The prefix of a base address is a text of path characters.** -/
theorem pathPrefix_of_parse {address : String} (h : Base.parse address = .ok base) :
    IsPathText base.pathPrefix := by
  unfold Base.parse at h
  split at h
  · cases h
  · next uri parsed =>
    have path := isPathText_of_parse parsed
    split at h
    · cases h
    · split at h
      · cases h
      · split at h
        · cases h
        · split at h
          · cases h
          · cases h
            rw [IsPathText, dropSlashes, String.toList_ofList]
            refine List.all_eq_true.mpr fun c within => List.all_eq_true.mp path c ?_
            exact (Text.trimEndOf_prefix _ _).subset within

/-! ## Methods -/

theorem methodPath_of_pathChars {pathPrefix service method : String} (front : IsPathText pathPrefix)
    (first : IsPathText service) (second : IsPathText method) :
    methodPath pathPrefix service method = .ok (pathPrefix ++ "/" ++ service ++ "/" ++ method) := by
  have slash : IsPathText "/" := by decide
  have whole : IsPathText (pathPrefix ++ "/" ++ service ++ "/" ++ method) :=
    isPathText_append (isPathText_append (isPathText_append (isPathText_append front slash) first)
      slash) second
  rw [methodPath, pathAndQuery_of_all whole, String.ofList_toList]
  rfl

end AdminPanel.Address
