import AdminPanel.Message.Catalog
import AdminPanel.Proofs.Wire.RoundTrip

/-!
# Messages survive the wire

Every message that is exchanged is read back from the bytes it is written to. That the layouts are
lawful is all there is to say about single messages; the rest holds of any layout.

* **`declared_lawful`** — the layouts of all messages are lawful.
* **`declared_read_write`** — the round trip: what is read, that it is written to the same bytes,
  and that different messages have different bytes.
-/

namespace AdminPanel.Message

open Wire

/-! ## The choice of an account -/

theorem Account.taken (account : Account) :
    ∃ a ∈ alternatives, (a.unwrap account).isSome := by
  cases account with
  | ocid text => exact ⟨_, List.mem_cons_self, rfl⟩
  | email text => exact ⟨_, List.mem_cons_of_mem _ List.mem_cons_self, rfl⟩

theorem Account.wrapped : ∀ a ∈ alternatives, ∀ (account : Account) (text : String),
    a.unwrap account = some text → a.wrap text = account := by
  refine List.forall_mem_cons.mpr ⟨?ocid, List.forall_mem_singleton.mpr ?email⟩
  case ocid | email =>
    intro account text found
    cases account <;> cases found
    rfl

/-! ## All messages -/

/-- **All layouts are lawful**, below the depth that a reader bears. -/
theorem declared_lawful : ∀ d ∈ declared, d.layout.Lawful (maxDepth + 1) := by
  simp only [declared, List.forall_mem_cons]
  -- messages, fields and kinds by what they are made of; what the numbers must be, by computation;
  -- what a field must be, by unfolding
  repeat' first
    | exact List.forall_mem_nil _
    | exact .choice Account.taken Account.wrapped
    | decide
    | constructor
    | (intros; rfl)

/-- **The round trip of every message.** A message is read back from its bytes, as it is if it holds
no negative zero, and otherwise with zeros in their place; either way it is written to the same
bytes again. Hence messages of the same bytes differ in the signs of zeros at most.

The bytes of a message are one vector, and no vector is longer than a word of 64 bits can count; of
a list this has to be said. -/
theorem declared_read_write (d : Declared) (mem : d ∈ declared) (m : d.Carrier)
    (short : (d.layout.write m).length < 2 ^ 64) :
    d.layout.read (d.layout.write m) = .ok (d.layout.unsigned m) ∧
    (d.layout.unsigned m = m ↔ d.layout.Signless m) ∧
    d.layout.write (d.layout.unsigned m) = d.layout.write m ∧
    ∀ m', d.layout.unsigned m ≠ d.layout.unsigned m' → d.layout.write m ≠ d.layout.write m' := by
  have lawful := declared_lawful d mem
  have read := Layout.read_write lawful m short
  refine ⟨read, lawful.unsigned_eq_iff m, lawful.write_unsigned m, ?_⟩
  intro m' different same
  rw [same] at short read
  rw [Layout.read_write lawful m' short] at read
  exact different (Except.ok.inj read).symm

/-- A measurement of negative zero, beside one that is not a number: the one comes back as zero,
the other as it is. -/
theorem declared_read_write_measured :
    GetMonitoringMetricsResponse.layout.read (GetMonitoringMetricsResponse.layout.write
      { metrics := some { messagesPerSecond := .negativeZero, totalUsers := 300
                          system := some { cpuUsagePercent := ⟨0x7ff8000000000001⟩ } } }) =
    .ok { metrics := some { totalUsers := 300
                            system := some { cpuUsagePercent := ⟨0x7ff8000000000001⟩ } } } :=
  (declared_read_write ⟨_, GetMonitoringMetricsResponse.layout⟩ (by simp [declared]) _
    (by decide)).1

end AdminPanel.Message
