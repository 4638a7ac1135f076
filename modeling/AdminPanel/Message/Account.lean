import AdminPanel.Wire.Layout

/-!
# Signing in

The exchange of an account and a password for a session token.
-/

namespace AdminPanel.Message

open Wire (Layout Alternative)

/-- An account by its identifier or by its address. -/
inductive Account where
  | ocid (text : String)
  | email (text : String)
  deriving Repr, DecidableEq, Inhabited

/-- The two ways of naming an account. -/
def Account.alternatives : List (Alternative Account) := [
  ⟨1, "Ocid", .ocid, fun a => match a with | .ocid s => some s | .email _ => none⟩,
  ⟨2, "Email", .email, fun a => match a with | .email s => some s | .ocid _ => none⟩]

/-- A text with an at sign is an address, any other an identifier. -/
def Account.ofText (s : String) : Account :=
  if s.toList.contains '@' then .email s else .ocid s

/-- An account and its password. -/
structure AuthRequest where
  account : Option Account := none
  password : String := ""
  deriving Repr, DecidableEq, Inhabited

def AuthRequest.layout : Layout AuthRequest :=
  .mk "AuthRequest" {} <|
  .cons 1 "account" (.choice Account.alternatives) (·.account)
    (fun v m => { m with account := v }) <|
  .cons 3 "password" (.scalar .string) (·.password) (fun v m => { m with password := v }) <|
  .nil

/-- The number of the user, and the token of the session. -/
structure AuthResponse where
  id : UInt64 := 0
  token : String := ""
  deriving Repr, DecidableEq, Inhabited

def AuthResponse.layout : Layout AuthResponse :=
  .mk "AuthResponse" {} <|
  .cons 1 "id" (.scalar .uint64) (·.id) (fun v m => { m with id := v }) <|
  .cons 2 "token" (.scalar .string) (·.token) (fun v m => { m with token := v }) <|
  .nil

end AdminPanel.Message
