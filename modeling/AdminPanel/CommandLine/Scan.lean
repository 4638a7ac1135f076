import AdminPanel.CommandLine.Value

/-!
# Scanning a command line

A stretch of the command line is read word by word. What is being given is settled, that is read
and kept, only when the next argument begins or the stretch ends, so that of two mistakes the one
whose argument is settled first is reported.
-/

namespace AdminPanel.CommandLine

/-! ## Words -/

/-- What a word looks like. -/
inductive Word where
  /-- Two dashes: what follows are values. -/
  | rest
  /-- Two dashes and a name, perhaps with an equals sign and a value. -/
  | long (name : String) (value : Option String)
  /-- A dash and letters, of which the first counts. -/
  | short (letter : Char)
  | plain
  deriving Repr, DecidableEq

/-- A name with what follows its first equals sign. -/
def splitValue (cs : List Char) : String × Option String :=
  let name := String.ofList (cs.takeWhile (· != '='))
  match cs.dropWhile (· != '=') with
  | [] => (name, none)
  | _ :: value => (name, some (String.ofList value))

/-- What a word looks like. A single dash is a value. -/
def Word.ofText (s : String) : Word :=
  match s.toList with
  | ['-', '-'] => .rest
  | '-' :: '-' :: cs =>
    let (name, value) := splitValue cs
    .long name value
  | '-' :: c :: _ => .short c
  | _ => .plain

/-! ## What has been given -/

/-- The values that have been given. -/
abbrev Given := (a : Argument) → Option a.Value

namespace Given

/-- Nothing has been given. -/
def none : Given := fun _ => Option.none

def insert (g : Given) (a : Argument) (v : a.Value) : Given :=
  fun b => if h : a = b then some (h ▸ v) else g b

@[simp] theorem insert_self (g : Given) (a : Argument) (v : a.Value) :
    g.insert a v a = some v := by
  simp [insert]

theorem insert_of_ne (g : Given) {a b : Argument} (h : a ≠ b) (v : a.Value) :
    g.insert a v b = g b := by
  simp [insert, h]

end Given

/-- An argument that is being given. -/
inductive Pending where
  | none
  /-- An option whose value is to come. -/
  | awaiting (argument : Argument)
  /-- An argument with the text of its value. -/
  | filled (argument : Argument) (text : String)
  deriving Repr, DecidableEq

/-- What has been read of a stretch. The argument that is being given is kept apart from those that have
been given, since it is read only when it is settled. -/
structure Scan where
  given : Given := Given.none
  pending : Pending := .none
  /-- The places that are still free. -/
  places : List Argument := []
  /-- Whether only values follow. -/
  valuesOnly : Bool := false

namespace Scan

/-- Before a stretch. -/
def start (l : Level) : Scan := { places := l.places }

/-- Keeps a value; none may be given twice. -/
def keep (s : Scan) (a : Argument) (text : String) : Except Fault Scan :=
  if (s.given a).isSome then .error (.repeated a)
  else
    match a.read text with
    | .ok v => .ok { s with given := s.given.insert a v }
    | .error e => .error (.value a e)

/-- Settles what is being given. An option whose value has not come is refused like one whose value cannot be
read. -/
def settle (s : Scan) : Except Fault Scan :=
  match s.pending with
  | .none => .ok s
  | .awaiting a => .error (.value a .invalid)
  | .filled a text => { s with pending := .none }.keep a text

/-- Takes a word that is no option into the next place. -/
def place (l : Level) (s : Scan) (text : String) : Except Fault Scan :=
  match s.places with
  | a :: places => do
    let s ← s.settle
    return { s with places := places, pending := .filled a text }
  | [] =>
    -- a surplus word is reported before what is being given is settled
    if l.isTop ∧ ¬ (s.valuesOnly ∧ (Verb.ofWord? text).isSome) then .error .unknownCommand
    else .error .unknownArgument

/-- The fault that asks for something to be shown, by the name of its option. -/
def wanted? (l : Level) (name : String) : Option Fault :=
  if name = "help" then some .helpWanted
  else if name = "version" ∧ l.isTop then some .versionWanted
  else none

/-- Takes an option by its name. A value may stand behind an equals sign, and is settled at once, or follow in
the next word. A flag takes none, and neither do the two options that ask for something to be shown. -/
def long (l : Level) (s : Scan) (name : String) (value : Option String) : Except Fault Scan :=
  match l.option? name, wanted? l name with
  | some a, _ =>
    if a.isFlag then
      match value with
      | some _ => .error .excessValue
      | none => do (← s.settle).keep a ""
    else
      match value with
      | some text => do (← s.settle).keep a text
      | none => do return { ← s.settle with pending := .awaiting a }
  | none, some wanted =>
    match value with
    | some _ => .error .excessValue
    | none => do
      let _ ← s.settle
      .error wanted
  | none, none => .error .unknownArgument

/-- The option of a letter. Only those that ask for something to be shown have one. -/
def longName? (letter : Char) : Option String :=
  if letter = 'h' then some "help" else if letter = 'V' then some "version" else none

/-- Takes an option by its letter. -/
def short (l : Level) (s : Scan) (letter : Char) : Except Fault Scan :=
  match (longName? letter).bind (wanted? l) with
  | some wanted => do
    let _ ← s.settle
    .error wanted
  | none => .error .unknownArgument

/-- Takes a word that is no verb. One that looks like an option is one, even where a value is awaited. -/
def step (l : Level) (s : Scan) (text : String) : Except Fault Scan :=
  -- behind the two dashes nothing is an option any more
  if s.valuesOnly then s.place l text
  else
    match Word.ofText text with
    | .rest => .ok { s with valuesOnly := true }
    | .long name value => s.long l name value
    | .short letter => s.short l letter
    | .plain =>
      match s.pending with
      | .awaiting a => .ok { s with pending := .filled a text }
      | _ => s.place l text

/-- The verb of a word, unless the word is a value. -/
def verb? (l : Level) (s : Scan) (text : String) : Option Verb :=
  match s.pending with
  | .awaiting _ => none
  | _ => if s.valuesOnly then none else l.verb? text

/-- Reads a stretch: up to its end, or up to a verb, behind which the rest stands. -/
def run (l : Level) (s : Scan) :
    List String → Except Fault (Scan × Option (Verb × List String))
  | [] => .ok (s, none)
  | text :: rest =>
    match s.verb? l text with
    | some verb => .ok (s, some (verb, rest))
    | none =>
      match s.step l text with
      | .ok s => run l s rest
      | .error e => .error e

end Scan

end AdminPanel.CommandLine
