import AdminPanel.Proofs.Address.MethodPath
import AdminPanel.Rpc.Line

/-!
# Which addresses can be dialed

A transport to an address is there exactly if the address can be read and, where the server is dialed
over TLS, there are root certificates and the host is one that a certificate can name. Every method has
its path below the prefix of the address.
-/

namespace AdminPanel.Rpc

theorem Service.isPathText_name (s : Service) : Address.IsPathText s.name := by
  cases s <;> decide

namespace Transport

open Address (Base IsPathText)

variable {address : String} {hasRoots : Bool} {t : Transport} {e : Address.Fault}

theorem new_eq_ok_iff :
    new address hasRoots = .ok t ↔
      ∃ base, Base.parse address = .ok base ∧
        (base.tls = true → hasRoots = true ∧ Address.isCertifiable base.authority = true) ∧
        t = ⟨Text.trim address, base⟩ := by
  unfold new
  cases Base.parse address with
  | error f => simp [bind, Except.bind]
  | ok base =>
    simp only [bind, Except.bind]
    split
    · grind
    · split <;> grind

theorem new_eq_error_iff :
    new address hasRoots = .error e ↔
      Base.parse address = .error e ∨
      ∃ base, Base.parse address = .ok base ∧ base.tls = true ∧
        (hasRoots = false ∧ e = .endpoint .noRoots ∨
          hasRoots = true ∧ Address.isCertifiable base.authority = false ∧
            e = .endpoint .unusableName) := by
  unfold new
  cases Base.parse address with
  | error f => simp [bind, Except.bind]
  | ok base =>
    simp only [bind, Except.bind]
    split
    · grind
    · split <;> grind

/-- Below an address that can be dialed, a method has the path that its names give. -/
theorem methodPath_of_new (dialed : new address hasRoots = .ok t) (service : Service) {method : String}
    (named : IsPathText method) :
    t.methodPath service.name method =
      .ok (t.base.pathPrefix ++ "/" ++ service.name ++ "/" ++ method) := by
  obtain ⟨base, parsed, -, rfl⟩ := new_eq_ok_iff.mp dialed
  have path := Address.methodPath_of_pathChars (Address.pathPrefix_of_parse parsed)
    service.isPathText_name named
  simp only [methodPath, path]

end Transport

end AdminPanel.Rpc
