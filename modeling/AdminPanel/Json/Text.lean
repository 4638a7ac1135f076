import AdminPanel.Json.Cursor

/-!
# Reading strings

A string runs to the next unescaped quote. Control characters must be escaped, and characters
outside the basic plane may be written as two escaped surrogates, which must come as a pair.
-/

namespace AdminPanel.Json.Reader

/-- The value of a hexadecimal digit. -/
def hexValue (c : Char) : Option Nat :=
  if c.isDigit then some (c.toNat - '0'.toNat)
  else if 'a' ≤ c ∧ c ≤ 'f' then some (c.toNat - 'a'.toNat + 10)
  else if 'A' ≤ c ∧ c ≤ 'F' then some (c.toNat - 'A'.toNat + 10)
  else none

/-- The number that hexadecimal digits write. -/
def hexNumber (cs : List Char) : Option Nat :=
  cs.foldl (fun acc c => do return (← acc) * 16 + (← hexValue c)) (some 0)

/-- Consumes `n` characters. -/
def skipMany : Nat → Reader Unit
  | 0 => pure ()
  | n + 1 => do skip; skipMany n

/-- The number of bytes that characters take. -/
def byteCount (cs : List Char) : Nat :=
  cs.foldl (fun n c => n + c.utf8Size) 0

/-- The four bytes of an escaped code unit. -/
def hexUnit : Reader Nat := fun c =>
  if byteCount c.rest < 4 then failAfter (byteCount c.rest) .endInString c
  else
    match hexNumber (c.rest.take 4) with
    | some n => (do skipMany 4; pure n) c
    | none => failAfter 4 .invalidEscape c

/-- Whether a code unit opens a surrogate pair. -/
def isHighSurrogate (n : Nat) : Bool := 0xD800 ≤ n && n ≤ 0xDBFF

/-- Whether a code unit closes a surrogate pair. -/
def isLowSurrogate (n : Nat) : Bool := 0xDC00 ≤ n && n ≤ 0xDFFF

/-- The code point of a surrogate pair. -/
def joinSurrogates (high low : Nat) : Nat :=
  0x10000 + (high - 0xD800) * 0x400 + (low - 0xDC00)

/-- Consumes a character that must be next. -/
def expectInPair (want : Char) : Reader Unit := do
  match ← peek with
  | none => fail .endInString
  | some c => if c = want then skip else failNext .unfinishedSurrogate

/-- The character of an escaped code unit or pair; the `u` is consumed. -/
def unicodeEscape : Reader Char := do
  let high ← hexUnit
  if isLowSurrogate high then fail .loneSurrogate
  else if isHighSurrogate high then
    expectInPair '\\'
    expectInPair 'u'
    let low ← hexUnit
    if isLowSurrogate low then pure (Char.ofNat (joinSurrogates high low))
    else fail .loneSurrogate
  else pure (Char.ofNat high)

/-- The characters that a letter behind a backslash stands for. -/
def shortEscape? : Char → Option Char
  | '"' => some '"'
  | '\\' => some '\\'
  | '/' => some '/'
  | 'b' => some '\x08'
  | 'f' => some '\x0c'
  | 'n' => some '\n'
  | 'r' => some '\r'
  | 't' => some '\t'
  | _ => none

/-- The character of an escape; the backslash is consumed. -/
def escape : Reader Char := do
  match ← peek with
  | none => fail .endInString
  | some 'u' => do skip; unicodeEscape
  | some c =>
    match shortEscape? c with
    | some d => do skip; pure d
    | none => failNext .invalidEscape

/-- The rest of a string, its characters collected in reverse. -/
def stringFrom (collected : List Char) : Nat → Reader String
  | 0 => fail .endInString
  | fuel + 1 => do
    match ← peek with
    | none => fail .endInString
    | some '"' => do skip; pure (String.ofList collected.reverse)
    | some '\\' => do skip; stringFrom ((← escape) :: collected) fuel
    | some c =>
      if c.toNat < 0x20 then failNext .controlCharacter
      else do skip; stringFrom (c :: collected) fuel

/-- The string whose opening quote is consumed. Each turn consumes a character. -/
def string : Reader String := do
  stringFrom [] ((← remaining) + 1)

end AdminPanel.Json.Reader
