import AdminPanel.Json.Document

/-!
# Skipping values

A value that nobody asked for is skipped without being kept: it must be well formed, but its
nesting is not limited, its numbers may be of any size and its surrogates need no partner.
-/

namespace AdminPanel.Json.Reader

/-- Skips to the end of a string whose opening quote is consumed. -/
def skipStringFrom : Nat → Reader Unit
  | 0 => fail .endInString
  | fuel + 1 => do
    match ← peek with
    | none => fail .endInString
    | some '"' => skip
    | some '\\' => do
      skip
      match ← peek with
      | none => fail .endInString
      | some 'u' => do
        skip
        let _ ← hexUnit
        skipStringFrom fuel
      | some c =>
        match shortEscape? c with
        | some _ => do skip; skipStringFrom fuel
        | none => failNext .invalidEscape
    | some c =>
      if c.toNat < 0x20 then fail .controlCharacter
      else do skip; skipStringFrom fuel

/-- Skips a string whose opening quote is consumed. -/
def skipString : Reader Unit := do
  skipStringFrom ((← remaining) + 1)

/-- Skips the exponent at the cursor, which stands on its letter. -/
def skipExponent : Reader Unit := do
  skip
  let sign ← peek
  if sign == some '+' || sign == some '-' then skip
  match ← peek with
  | none => fail .invalidNumber
  | some c =>
    if c.isDigit then
      let _ ← digits
    else failNext .invalidNumber

/-- Skips the exponent, if its letter is next. -/
def skipExponentOrEnd : Reader Unit := do
  match ← peek with
  | some 'e' | some 'E' => skipExponent
  | _ => pure ()

/-- Skips a number whose sign, if any, is consumed. -/
def skipNumber : Reader Unit := do
  match ← peek with
  | none => fail .invalidNumber
  | some c =>
    if !c.isDigit then failNext .invalidNumber
    else
      if c = '0' then
        skip
        if let some d ← peek then
          if d.isDigit then failNext .invalidNumber
      else
        let _ ← digits
      match ← peek with
      | some '.' =>
        skip
        match ← digits with
        | [] => failNext .invalidNumber
        | _ => skipExponentOrEnd
      | _ => skipExponentOrEnd

/-- Skips the name and the colon of a member; the cursor stands before the name. -/
def skipName : Reader Unit := do
  match ← peekToken with
  | none => failNext .endInObject
  | some '"' => do
    skip
    skipString
    colon
  | some _ => failNext .keyNotString

/-- Consumes closing brackets, and the comma behind one, up to the place where the next value
starts. Gives the lists (`true`) and objects (`false`) that are still open, the innermost first. -/
def closeOpen : List Bool → Nat → Reader (List Bool)
  | [], _ => pure []
  | _, 0 => fail .endInValue
  | inList :: outer, fuel + 1 => do
    match ← peekToken with
    | none => failNext (if inList then .endInList else .endInObject)
    | some ',' => do
      skip
      unless inList do skipName
      pure (inList :: outer)
    | some c =>
      if inList && c == ']' || !inList && c == '\x7d' then
        skip
        closeOpen outer fuel
      else failNext (if inList then .expectedListEnd else .expectedObjectEnd)

/-- Skips values until no list or object is open. -/
def skipFrom (openOnes : List Bool) : Nat → Reader Unit
  | 0 => fail .endInValue
  | fuel + 1 => do
    let settle : Reader Unit := do
      match ← closeOpen openOnes ((← remaining) + 1) with
      | [] => pure ()
      | still => skipFrom still fuel
    match ← peekToken with
    | none => failNext .endInValue
    | some 'n' => do skip; literal ['u', 'l', 'l']; settle
    | some 't' => do skip; literal ['r', 'u', 'e']; settle
    | some 'f' => do skip; literal ['a', 'l', 's', 'e']; settle
    | some '-' => do skip; skipNumber; settle
    | some '"' => do skip; skipString; settle
    | some '[' => do
      skip
      match ← peekToken with
      | none => failNext .endInList
      | some ']' => do skip; settle
      | some _ => skipFrom (true :: openOnes) fuel
    | some '\x7b' => do
      skip
      match ← peekToken with
      | none => failNext .endInObject
      | some '\x7d' => do skip; settle
      | some _ => do skipName; skipFrom (false :: openOnes) fuel
    | some c => if c.isDigit then do skipNumber; settle else failNext .expectedValue

def skipValue : Reader Unit := do
  skipFrom [] ((← remaining) + 1)

end AdminPanel.Json.Reader
