import Mathlib.Logic.Function.Basic
import AdminPanel.Rpc.Credential
import AdminPanel.Proofs.Session.Token
import AdminPanel.Proofs.Text.Utf8

/-!
# Attaching the credential

Headers are a multimap: names, each with any number of values in an order. Attaching puts one entry into it
and touches nothing else.

* **`isHeaderChar_iff`** — which texts a header can carry, byte by byte.
* **`Headers.values_set`**, **`Headers.set_set`** — setting a header, on the multimap and on the list.
* **`attach_cases`** — what attaching does, by what the storage holds under the name of the token.
* **`attach_changes_only_the_credential`** — the whole of it.
-/

namespace AdminPanel.Rpc

open Storage (Store)
open Session (tokenName)

/-! ## What a header can carry -/

/-- A byte that may stand in the value of a header: a tab, or no control character. -/
def IsHeaderByte (b : UInt8) : Prop :=
  b.toNat = 9 ∨ (32 ≤ b.toNat ∧ b.toNat ≠ 127)

/-- A text that can be the value of a header. -/
def IsHeaderValue (text : String) : Prop :=
  ∀ b ∈ text.toUTF8.toList, IsHeaderByte b

theorem isHeaderChar_iff {c : Char} :
    isHeaderChar c = true ↔ ∀ b ∈ String.utf8EncodeChar c, IsHeaderByte b := by
  have tab : c = '\t' ↔ c.toNat = 9 := Char.toNat_inj.symm
  have valid : isHeaderChar c = true ↔ c.toNat = 9 ∨ (32 ≤ c.toNat ∧ c.toNat ≠ 127) := by
    simp [isHeaderChar, tab]
  rw [valid]
  rcases Text.utf8EncodeChar_cases c with ⟨small, bytes⟩ | ⟨large, bytes⟩
  · have number : (UInt8.ofNat c.toNat).toNat = c.toNat := by
      rw [UInt8.toNat_ofNat']
      omega
    rw [bytes]
    simp only [List.mem_singleton, forall_eq, IsHeaderByte, number]
  · constructor
    · intro _ b within
      have beyond := bytes b within
      exact .inr (by omega)
    · intro _
      omega

theorem all_isHeaderChar_iff {text : String} :
    text.toList.all isHeaderChar = true ↔ IsHeaderValue text := by
  rw [IsHeaderValue, Text.toUTF8_toList, List.all_eq_true]
  simp only [isHeaderChar_iff, List.mem_flatMap]
  exact ⟨fun h b ⟨c, within, byte⟩ => h c within b byte, fun h c within b byte => h b ⟨c, within, byte⟩⟩

/-! ## Headers as a multimap -/

namespace Headers

/-- Setting a header gives its name one value, and leaves every other name its values, in their order. -/
theorem values_set (h : Headers) (name value : String) :
    (h.set name value).values = Function.update h.values name [value] := by
  funext other
  rw [values, set, List.filter_append, List.filter_filter, List.map_append]
  by_cases same : other = name
  · subst same
    rw [Function.update_self]
    simp
  · rw [Function.update_of_ne same, values]
    have kept : ∀ e : String × String, (e.1 == other && e.1 != name) = (e.1 == other) := by
      intro e
      by_cases here : e.1 = other
      · simp [here, same]
      · simp [here]
    simp only [kept]
    simp [Ne.symm same]

/-- The last of two values that are set is the one that stays. -/
theorem set_set (h : Headers) (name value value' : String) :
    (h.set name value).set name value' = h.set name value' := by
  simp [set, List.filter_append, List.filter_filter]

end Headers

/-! ## Attaching -/

variable {α : Type} {s : Store}

/-- What attaching does, by what the storage holds under the name of the token. -/
inductive Attached (s : Store) (r : Outgoing α) : Except Status (Outgoing α) → Prop where
  | unreadable {e : Storage.Fault} (h : s.get tokenName = .error e) :
    Attached s r (.error ⟨.internal, "credential storage unavailable: " ++ e.message, []⟩)
  | absent (h : s.get tokenName = .ok none ∨ s.get tokenName = .ok (some "")) : Attached s r (.ok r)
  | invalid {t : String} (h : s.get tokenName = .ok (some t)) (nonempty : t ≠ "")
      (invalid : ¬ IsHeaderValue (bearer t)) :
    Attached s r (.error ⟨.unauthenticated, "stored token is not a valid header value", []⟩)
  | credited {t : String} (h : s.get tokenName = .ok (some t)) (nonempty : t ≠ "")
      (valid : IsHeaderValue (bearer t)) :
    Attached s r (.ok { r with headers := r.headers.set authorization (bearer t) })

theorem attach_cases (s : Store) (r : Outgoing α) : Attached s r (r.attach s) := by
  rw [Outgoing.attach, Rpc.attach]
  cases token : Session.token s with
  | error e => exact .unreadable (Session.token_eq_error_iff.mp token)
  | ok found =>
    cases found with
    | none => exact .absent (Session.token_eq_none_iff.mp token)
    | some t =>
      obtain ⟨stored, nonempty⟩ := Session.token_eq_some_iff.mp token
      by_cases valid : (bearer t).toList.all isHeaderChar = true
      · simp only [if_pos valid]
        exact .credited stored nonempty (all_isHeaderChar_iff.mp valid)
      · simp only [if_neg valid]
        exact .invalid stored nonempty fun h => valid (all_isHeaderChar_iff.mpr h)

theorem attach_of_absent (r : Outgoing α)
    (h : s.get tokenName = .ok none ∨ s.get tokenName = .ok (some "")) : r.attach s = .ok r := by
  have attached := attach_cases s r
  generalize r.attach s = result at attached ⊢
  cases attached with
  | absent => rfl
  | unreadable h' => simp [h'] at h
  | invalid h' nonempty | credited h' nonempty => simp [h', nonempty] at h

theorem attach_of_unreadable (r : Outgoing α) {e : Storage.Fault} (h : s.get tokenName = .error e) :
    r.attach s = .error ⟨.internal, "credential storage unavailable: " ++ e.message, []⟩ := by
  have attached := attach_cases s r
  generalize r.attach s = result at attached ⊢
  cases attached with
  | unreadable h' =>
    cases h.symm.trans h'
    rfl
  | absent h' => simp [h] at h'
  | invalid h' | credited h' => cases h.symm.trans h'

section Token

variable {t : String} (h : s.get tokenName = .ok (some t)) (nonempty : t ≠ "")
include h nonempty

theorem attach_of_valid (r : Outgoing α) (valid : IsHeaderValue (bearer t)) :
    r.attach s = .ok { r with headers := r.headers.set authorization (bearer t) } := by
  have attached := attach_cases s r
  generalize r.attach s = result at attached ⊢
  cases attached with
  | unreadable h' => cases h.symm.trans h'
  | absent h' => simp [h, nonempty] at h'
  | invalid h' _ invalid =>
    cases h.symm.trans h'
    exact absurd valid invalid
  | credited h' =>
    cases h.symm.trans h'
    rfl

theorem attach_of_invalid (r : Outgoing α) (invalid : ¬ IsHeaderValue (bearer t)) :
    r.attach s = .error ⟨.unauthenticated, "stored token is not a valid header value", []⟩ := by
  have attached := attach_cases s r
  generalize r.attach s = result at attached ⊢
  cases attached with
  | unreadable h' => cases h.symm.trans h'
  | absent h' => simp [h, nonempty] at h'
  | invalid => rfl
  | credited h' _ valid =>
    cases h.symm.trans h'
    exact absurd valid invalid

end Token

/-- What has been attached stays when it is attached again. -/
theorem attach_attach (s : Store) (r : Outgoing α) : (r.attach s).bind (·.attach s) = r.attach s := by
  have attached := attach_cases s r
  generalize r.attach s = result at attached ⊢
  cases attached with
  | unreadable | invalid => rfl
  | absent h => exact attach_of_absent r h
  | credited h nonempty valid =>
    show Outgoing.attach s _ = _
    rw [attach_of_valid h nonempty _ valid, Headers.set_set]

/-- **Attaching changes nothing but the credential.** Without a token, or with an empty one, a call goes out
as it is. With a token that a header can carry it goes out with its payload, with the token as the one value of
its own header, and with all values of every other header in their order. With any other token, and out of a
storage that cannot be read, it does not go out. Attaching twice is attaching once, and nothing of the storage
matters but what it holds under the name of the token. -/
theorem attach_changes_only_the_credential (s : Store) (r : Outgoing α) :
    (s.get tokenName = .ok none ∨ s.get tokenName = .ok (some "") → r.attach s = .ok r) ∧
    (∀ t, s.get tokenName = .ok (some t) → t ≠ "" →
      (IsHeaderValue (bearer t) → ∃ r', r.attach s = .ok r' ∧ r'.payload = r.payload ∧
        r'.headers.values = Function.update r.headers.values authorization [bearer t]) ∧
      (¬ IsHeaderValue (bearer t) →
        r.attach s = .error ⟨.unauthenticated, "stored token is not a valid header value", []⟩)) ∧
    (∀ e, s.get tokenName = .error e →
      r.attach s = .error ⟨.internal, "credential storage unavailable: " ++ e.message, []⟩) ∧
    (r.attach s).bind (·.attach s) = r.attach s ∧
    (∀ s' : Store, s'.get tokenName = s.get tokenName → r.attach s' = r.attach s) := by
  refine ⟨attach_of_absent r, fun t h nonempty => ⟨fun valid => ?_, attach_of_invalid h nonempty r⟩,
    fun e h => attach_of_unreadable r h, attach_attach s r, fun s' same => ?_⟩
  · exact ⟨_, attach_of_valid h nonempty r valid, rfl, Headers.values_set ..⟩
  · have token : Session.token s' = Session.token s := by rw [Session.token_eq, Session.token_eq, same]
    rw [Outgoing.attach, Outgoing.attach, Rpc.attach, Rpc.attach, token]

/-- A call that already has two credentials and a header with two values, out of a session and out of none,
and with a token that has a line break. -/
theorem attach_changes_only_the_credential_repeated :
    let call : Outgoing (List UInt8) :=
      ⟨[("authorization", "old"), ("x-trace", "a"), ("authorization", "older"), ("x-trace", "b")], [1, 2]⟩
    let store (items : Storage.Items) : Store := ⟨.memory items, {}⟩
    (∃ call', call.attach (store [("token", "t")]) = .ok call' ∧ call'.payload = [1, 2] ∧
      call'.headers.values "authorization" = ["Bearer t"] ∧ call'.headers.values "x-trace" = ["a", "b"]) ∧
    call.attach (store [("other", "t")]) = .ok call ∧
    call.attach (store [("token", "a\nb")]) =
      .error ⟨.unauthenticated, "stored token is not a valid header value", []⟩ := by
  intro call store
  refine ⟨?_, (attach_changes_only_the_credential (store [("other", "t")]) call).1 (.inl rfl), ?_⟩
  · obtain ⟨-, token, -⟩ := attach_changes_only_the_credential (store [("token", "t")]) call
    obtain ⟨call', attached, payload, values⟩ :=
      (token "t" rfl (by decide)).1 (all_isHeaderChar_iff.mp (by decide +kernel))
    exact ⟨call', attached, payload, by rw [values]; rfl, by rw [values]; decide +kernel⟩
  · obtain ⟨-, token, -⟩ := attach_changes_only_the_credential (store [("token", "a\nb")]) call
    exact (token "a\nb" rfl (by decide)).2 fun valid =>
      absurd (all_isHeaderChar_iff.mpr valid) (by decide +kernel)

end AdminPanel.Rpc
