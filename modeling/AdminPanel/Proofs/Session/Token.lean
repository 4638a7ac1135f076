import AdminPanel.Session

/-!
# What reading the token tells

The token of the session is read out of the storage each time it is needed. These lemmas say what
each outcome of that reading means for the storage; every later proof uses them instead of opening
`Session.token`. What it takes to store one is `start_eq_ok_iff`.
-/

namespace AdminPanel.Session

open Storage (Store Fault)

/-- Reading the token, by what the storage holds under its name. -/
theorem token_eq (s : Store) :
    token s = match s.get tokenName with
      | .error e => .error e
      | .ok value => .ok (value.filter fun t => !t.isEmpty) := by
  unfold token
  cases s.get tokenName <;> rfl

theorem token_eq_error_iff {s : Store} {e : Fault} :
    token s = .error e ↔ s.get tokenName = .error e := by
  rw [token_eq]
  cases s.get tokenName <;> simp

/-- There is a token exactly if a text that is not empty is stored. -/
theorem token_eq_some_iff {s : Store} {t : String} :
    token s = .ok (some t) ↔ s.get tokenName = .ok (some t) ∧ t ≠ "" := by
  rw [token_eq]
  cases s.get tokenName with
  | error e => simp
  | ok value =>
    simp only [Except.ok.injEq, Option.filter_eq_some_iff, Bool.not_eq_true',
      String.isEmpty_eq_false_iff]

/-- There is no token exactly if nothing is stored, or the empty text. -/
theorem token_eq_none_iff {s : Store} :
    token s = .ok none ↔ s.get tokenName = .ok none ∨ s.get tokenName = .ok (some "") := by
  rw [token_eq]
  rcases s.get tokenName with e | _ | t
  · simp
  · simp
  · simp [Option.filter_eq_none_iff]

theorem isOpen_iff {s : Store} : isOpen s = true ↔ ∃ t, token s = .ok (some t) := by
  unfold isOpen
  rcases token s with e | _ | t <;> simp

/-- A text that is not empty can be read under the name of the token. -/
def HasToken (s : Store) : Prop := ∃ t, s.get tokenName = .ok (some t) ∧ t ≠ ""

theorem isOpen_iff_hasToken {s : Store} : isOpen s = true ↔ HasToken s := by
  rw [isOpen_iff]
  exact exists_congr fun t => token_eq_some_iff

/-- No token can be read where none is stored, where the empty text is, and where reading fails. -/
theorem not_hasToken_iff {s : Store} :
    ¬ HasToken s ↔
      s.get tokenName = .ok none ∨ s.get tokenName = .ok (some "") ∨
        ∃ e, s.get tokenName = .error e := by
  unfold HasToken
  rcases s.get tokenName with e | _ | t
  · simp
  · simp
  · simp

/-- A session is begun exactly by storing a token that is not empty. -/
theorem start_eq_ok_iff {s s' : Store} {t : String} :
    start s t = .ok s' ↔ t ≠ "" ∧ s.set tokenName t = .ok s' := by
  unfold start
  by_cases empty : t = ""
  · simp [empty]
  · simp [empty]

end AdminPanel.Session
