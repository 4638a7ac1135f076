import AdminPanel.Address.Base
import AdminPanel.Proofs.Navigation.Going
import AdminPanel.Proofs.Text.Quoting

/-!
# Refusals that quote

A path that leads nowhere and an address that cannot be used are quoted in the words of the refusal. What is
quoted comes from outside, and nothing in it can break the line or pass for other words: the refusal holds it
whole (`refusals_unforgeable`).
-/

namespace AdminPanel

open Address (Base UriFault)
open Storage (Store)
open Text (disturbs quoted quotation?)

/-- The refusals of a text from outside, by what they tell of it. -/
inductive Refusal where
  | noRoute
  | unsupportedScheme
  | missingAuthority
  | malformed (reason : String)

namespace Refusal

/-- The words of the refusal of a text. -/
def message (text : String) : Refusal → String
  | noRoute => (Navigation.Fault.mk text).message
  | unsupportedScheme => (Address.Fault.unsupportedScheme text).message
  | missingAuthority => (Address.Fault.missingAuthority text).message
  | malformed reason => (Address.Fault.malformed text reason).message

/-- What is told beside the text. -/
def reason : Refusal → String
  | malformed reason => reason
  | _ => ""

variable {address path : String}

/-- The text stands in one quotation, and the words around it are the same for all texts. -/
theorem exists_message (r : Refusal) :
    ∃ before after : String, '"' ∉ before.toList ∧ before.toList.filter disturbs = [] ∧
      after.toList.filter disturbs = r.reason.toList.filter disturbs ∧
      ∀ text, r.message text = before ++ quoted text ++ after := by
  cases r with
  | noRoute => exact ⟨"No route matches ", "", by decide, by decide, rfl, fun text => by simp; rfl⟩
  | unsupportedScheme =>
    exact ⟨"Unsupported scheme in base address ", " (expected http or https)", by decide, by decide,
      by decide, fun text => rfl⟩
  | missingAuthority =>
    exact ⟨"Base address ", " has no host", by decide, by decide, by decide, fun text => rfl⟩
  | malformed reason =>
    refine ⟨"Malformed base address ", ": " ++ reason, by decide, by decide, ?_, fun text => ?_⟩
    · have colon : ": ".toList.filter disturbs = [] := by decide
      rw [String.toList_append, List.filter_append, colon]
      rfl
    · exact String.append_assoc

/-- An address that is not taken is refused for a reason that disturbs nothing. -/
theorem exists_of_parse {fault : Address.Fault} (h : Base.parse address = .error fault) :
    ∃ r : Refusal, fault.message = r.message address ∧ r.reason.toList.filter disturbs = [] := by
  have calm (e : UriFault) : e.message.toList.filter disturbs = [] := by
    cases e <;> decide
  unfold Base.parse at h
  split at h
  · next e malformed =>
    cases h
    exact ⟨.malformed e.message, rfl, calm e⟩
  · split at h
    · cases h
      exact ⟨.missingAuthority, rfl, rfl⟩
    · split at h
      · cases h
        exact ⟨.unsupportedScheme, rfl, rfl⟩
      · split at h
        · cases h
          exact ⟨.unsupportedScheme, rfl, rfl⟩
        · split at h
          · cases h
            exact ⟨.malformed "query strings are not allowed", rfl, by decide⟩
          · cases h

end Refusal

/-- **Refusals cannot be forged.** Of the characters of a text that is refused, the words of the refusal have
none that breaks a line or controls a terminal: all of these come from the reason that is told beside it.
The text can be read out of the words again, so that two texts are never refused in the same words. And the
addresses and paths that are refused are refused in such words, for reasons that have no such character
either. -/
theorem refusals_unforgeable :
    (∀ (r : Refusal) (text : String),
      (r.message text).toList.filter disturbs = r.reason.toList.filter disturbs ∧
        quotation? (r.message text) = some text) ∧
    (∀ r : Refusal, Function.Injective fun text => r.message text) ∧
    (∀ (address : String) (fault : Address.Fault), Base.parse address = .error fault →
      ∃ r : Refusal, fault.message = r.message address ∧ r.reason.toList.filter disturbs = []) ∧
    ∀ (s : Store) (path : String) (fault : Navigation.Fault), Navigation.go s path = .error fault →
      fault.message = Refusal.noRoute.message path := by
  have undone (r : Refusal) (text : String) : quotation? (r.message text) = some text := by
    obtain ⟨before, after, first, -, -, whole⟩ := r.exists_message
    rw [whole, Text.quotation?_append first]
  refine ⟨fun r text => ⟨?_, undone r text⟩, fun r text text' same => ?_,
    fun address fault => Refusal.exists_of_parse, fun s path fault unknown => ?_⟩
  · obtain ⟨before, after, -, calm, reason, whole⟩ := r.exists_message
    rw [whole, String.toList_append, String.toList_append, List.filter_append, List.filter_append, calm,
      Text.filter_disturbs_quoted, reason]
    rfl
  · have texts := congrArg quotation? (show r.message text = r.message text' from same)
    rw [undone, undone] at texts
    exact Option.some.inj texts
  · rw [(Navigation.go_eq_error_iff.mp unknown).1]
    rfl

/-- An address of the wrong scheme with a line behind it, and a path that would end its quotation. -/
theorem refusals_unforgeable_lines :
    (∃ fault, Base.parse "ftp://a/\u2028b" = .error fault ∧
      fault.message.toList.filter disturbs = [] ∧ quotation? fault.message = some "ftp://a/\u2028b") ∧
    ∃ fault, Navigation.go ⟨.memory [("token", "t")], default⟩ "/x\" or\n" = .error fault ∧
      fault.message.toList.filter disturbs = [] ∧ quotation? fault.message = some "/x\" or\n" := by
  obtain ⟨words, -, addresses, paths⟩ := refusals_unforgeable
  constructor
  · have refused : Base.parse "ftp://a/\u2028b" = .error (.unsupportedScheme "ftp://a/\u2028b") :=
      rfl
    obtain ⟨r, message, reason⟩ := addresses _ _ refused
    refine ⟨_, refused, ?_⟩
    rw [message, (words r _).1, (words r _).2]
    exact ⟨reason, rfl⟩
  · have unknown : Navigation.go ⟨.memory [("token", "t")], default⟩ "/x\" or\n" = .error ⟨"/x\" or\n"⟩ :=
      rfl
    refine ⟨_, unknown, ?_⟩
    rw [paths _ _ _ unknown, (words .noRoute _).1, (words .noRoute _).2]
    exact ⟨rfl, rfl⟩

end AdminPanel
