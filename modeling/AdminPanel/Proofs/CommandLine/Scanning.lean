import Mathlib.Data.List.TakeWhile
import AdminPanel.CommandLine.Command
import AdminPanel.Proofs.CommandLine.Values

/-!
# Scanning written words

An argument with its value is an entry. The words of entries are scanned one by one, and what has been given
when some have been scanned is what these entries hold.

* **`Entry.option`**, **`Entry.text`** — the word of an option, and the word of an argument that has a place.
* **`Given.insertAll`**, **`insertAll_eq_some_iff`** — what has been given when entries have been.
* **`step_option`**, **`run_options`** — one option, and from it a row of them.
* **`run_places`** — the values behind two dashes, whatever they look like. The last of them is settled only
  when the stretch ends.
-/

namespace AdminPanel.CommandLine

/-- An argument with a value. -/
structure Entry where
  argument : Argument
  value : argument.Value

namespace Entry

/-- The text of the value. -/
def text (e : Entry) : String := e.argument.write e.value

/-- The word of an option: its name, and behind an equals sign its value, unless it is a flag. -/
def option (e : Entry) : String :=
  "--" ++ e.argument.optionName.getD "" ++ if e.argument.isFlag then "" else "=" ++ e.text

def Givable (e : Entry) : Prop := e.argument.Givable e.value

theorem read_text {e : Entry} (h : e.Givable) : e.argument.read e.text = .ok e.value :=
  Argument.read_write h

end Entry

/-! ## What entries give -/

namespace Given

/-- What has been given when entries have been, too. -/
def insertAll (g : Given) (es : List Entry) : Given :=
  es.foldl (fun g e => g.insert e.argument e.value) g

variable {g : Given} {es es' : List Entry} {e : Entry} {a : Argument} {v : a.Value}

theorem insertAll_append (g : Given) (es es' : List Entry) :
    g.insertAll (es ++ es') = (g.insertAll es).insertAll es' :=
  List.foldl_append

/-- Each entry is there once, and none has been given before. -/
structure Fresh (g : Given) (es : List Entry) : Prop where
  once : (es.map Entry.argument).Nodup
  notYet : ∀ e ∈ es, g e.argument = Option.none

theorem fresh_none (once : (es.map Entry.argument).Nodup) : Fresh Given.none es := ⟨once, fun _ _ => rfl⟩

theorem Fresh.head (h : Fresh g (e :: es)) : g e.argument = Option.none := h.notYet e List.mem_cons_self

theorem Fresh.tail (h : Fresh g (e :: es)) : Fresh (g.insert e.argument e.value) es := by
  obtain ⟨others, once⟩ := List.nodup_cons.mp h.once
  refine ⟨once, fun e' within => ?_⟩
  have differs : e.argument ≠ e'.argument := fun same =>
    others (same ▸ List.mem_map_of_mem within)
  rw [insert_of_ne g differs]
  exact h.notYet e' (List.mem_cons_of_mem e within)

theorem Fresh.append (h : Fresh g (es ++ es')) : Fresh g es ∧ Fresh (g.insertAll es) es' := by
  induction es generalizing g with
  | nil => exact ⟨⟨List.nodup_nil, List.forall_mem_nil _⟩, h⟩
  | cons e es ih =>
    refine ⟨⟨?_, fun e' within => h.notYet e' (List.mem_append_left es' within)⟩, (ih h.tail).2⟩
    exact h.once.sublist ((List.sublist_append_left (e :: es) es').map _)

theorem insert_eq_some_iff (notYet : g e.argument = Option.none) :
    g.insert e.argument e.value a = some v ↔ g a = some v ∨ ⟨a, v⟩ = e := by
  obtain ⟨b, w⟩ := e
  by_cases same : b = a
  · subst same
    rw [insert_self, notYet]
    simp [eq_comm]
  · have differs : (⟨a, v⟩ : Entry) ≠ ⟨b, w⟩ := fun h => same (congrArg Entry.argument h).symm
    rw [insert_of_ne g same]
    simp [differs]

/-- What has been given is what has been before, and what the entries hold. -/
theorem insertAll_eq_some_iff (fresh : Fresh g es) :
    g.insertAll es a = some v ↔ g a = some v ∨ ⟨a, v⟩ ∈ es := by
  induction es generalizing g with
  | nil => simp [insertAll]
  | cons e es ih =>
    have step : g.insertAll (e :: es) = (g.insert e.argument e.value).insertAll es := rfl
    rw [step, ih fresh.tail, insert_eq_some_iff fresh.head, List.mem_cons, or_assoc]

/-- Behind nothing, what has been given is what the entries hold. -/
theorem insertAll_none_eq_some_iff (fresh : Fresh none es) :
    none.insertAll es a = some v ↔ ⟨a, v⟩ ∈ es := by
  rw [insertAll_eq_some_iff fresh]
  exact or_iff_right nofun

end Given

/-! ## What the words look like -/

/-- A name without an equals sign ends where one stands. -/
theorem splitValue_equals {name : String} (noEquals : name.toList.all (· != '=') = true) (value : String) :
    splitValue (name.toList ++ '=' :: value.toList) = (name, some value) := by
  have keeps := List.all_eq_true.mp noEquals
  simp [splitValue, List.takeWhile_append_of_pos keeps, List.dropWhile_append_of_pos keeps]

theorem splitValue_alone {name : String} (noEquals : name.toList.all (· != '=') = true) :
    splitValue name.toList = (name, none) := by
  have keeps := List.all_eq_true.mp noEquals
  simp [splitValue, List.takeWhile_eq_self_iff.mpr keeps, List.dropWhile_eq_nil_iff.mpr keeps]

/-- Two dashes and something behind them are a name, with a value if an equals sign stands there. -/
theorem Word.ofText_dashes {s : String} (named : s ≠ "") :
    Word.ofText ("--" ++ s) = .long (splitValue s.toList).1 (splitValue s.toList).2 := by
  have chars : ("--" ++ s).toList = '-' :: '-' :: s.toList := by simp
  unfold Word.ofText
  rw [chars]
  cases tail : s.toList with
  | nil => exact absurd (String.toList_eq_nil_iff.mp tail) named
  | cons c cs => rfl

namespace Entry

variable {e : Entry} {name : String}

/-- The word of an option shows its name, and its value unless it is a flag. -/
theorem ofText_option (named : e.argument.optionName = some name) :
    Word.ofText e.option = .long name (if e.argument.isFlag then none else some e.text) := by
  obtain ⟨noEquals, notEmpty⟩ : name.toList.all (· != '=') = true ∧ name ≠ "" := by
    revert named
    cases e.argument <;> rintro ⟨⟩ <;> decide
  rw [option, named, Option.getD_some, String.append_assoc, Word.ofText_dashes (by simp [notEmpty])]
  split
  · rw [String.append_empty, splitValue_alone noEquals]
  · have chars : (name ++ ("=" ++ e.text)).toList = name.toList ++ '=' :: e.text.toList := by simp
    rw [chars, splitValue_equals noEquals]

theorem head?_option (e : Entry) : e.option.toList.head? = some '-' := by
  simp [option]

/-- A flag has no text. -/
theorem text_of_isFlag (h : e.argument.isFlag = true) : e.text = "" := by
  obtain ⟨a, v⟩ := e
  cases a <;> cases h
  rfl

end Entry

/-- No verb starts with a dash. -/
theorem Verb.ofWord?_of_dash {s : String} (h : s.toList.head? = some '-') : Verb.ofWord? s = none := by
  have notHelp : s ≠ "help" := by
    rintro rfl
    cases h
  have noCommand : CommandName.ofWord? s = none := by
    refine List.find?_eq_none.mpr fun c _ same => ?_
    rw [← beq_iff_eq.mp same] at h
    revert h
    cases c <;> decide
  rw [ofWord?, if_neg notHelp, noCommand]
  rfl

theorem Verb.ofWord?_word (c : CommandName) : Verb.ofWord? c.word = some (.command c) := by
  have notHelp : c.word ≠ "help" := by cases c <;> decide
  rw [ofWord?, if_neg notHelp, CommandName.ofWord?_word]
  rfl

/-! ## Scanning options -/

/-- Whether an argument is an option that may stand on the stretch. -/
def Level.takes (l : Level) (a : Argument) : Bool :=
  a.optionName.any fun name => l.option? name == some a

theorem takes_top : ∀ a ∈ commonOptions, Level.top.takes a = true := by decide

theorem takes_level (c : CommandName) : ∀ a ∈ c.level.options, c.level.takes a = true := by
  cases c <;> decide

namespace Scan

variable {l : Level} {g : Given} {places : List Argument} {e : Entry} {es : List Entry}

/-- A value that can be given, and has not been, is kept. -/
theorem keep_text (givable : e.Givable) (notYet : g e.argument = none) (pending : Pending)
    (places : List Argument) (valuesOnly : Bool) :
    keep ⟨g, pending, places, valuesOnly⟩ e.argument e.text =
      .ok ⟨g.insert e.argument e.value, pending, places, valuesOnly⟩ := by
  unfold keep
  simp only [notYet, Option.isSome_none, Bool.false_eq_true, ↓reduceIte, e.read_text givable]

/-- **One option is scanned.** -/
theorem step_option (takes : l.takes e.argument = true) (givable : e.Givable)
    (notYet : g e.argument = none) (places : List Argument) :
    step l ⟨g, .none, places, false⟩ e.option =
      .ok ⟨g.insert e.argument e.value, .none, places, false⟩ := by
  obtain ⟨name, named, found⟩ := (Option.any_eq_true _ _).mp takes
  have kept := keep_text givable notYet .none places false
  simp only [step, Bool.false_eq_true, ↓reduceIte, Entry.ofText_option named, long, beq_iff_eq.mp found]
  cases flag : e.argument.isFlag with
  | true =>
    rw [e.text_of_isFlag flag] at kept
    exact kept
  | false => exact kept

/-- No word that starts with a dash is taken for a verb. -/
theorem verb?_of_dash {s : String} (dash : s.toList.head? = some '-') (l : Level) (g : Given)
    (places : List Argument) : verb? l ⟨g, .none, places, false⟩ s = none := by
  simp only [verb?, Bool.false_eq_true, ↓reduceIte, Level.verb?, Verb.ofWord?_of_dash dash, ite_self]

/-- **A row of options is scanned.** -/
theorem run_options (takes : ∀ e ∈ es, l.takes e.argument = true) (givable : ∀ e ∈ es, e.Givable)
    (fresh : g.Fresh es) (places : List Argument) (rest : List String) :
    run l ⟨g, .none, places, false⟩ (es.map Entry.option ++ rest) =
      run l ⟨g.insertAll es, .none, places, false⟩ rest := by
  induction es generalizing g with
  | nil => rfl
  | cons e es ih =>
    rw [List.forall_mem_cons] at takes givable
    rw [List.map_cons, List.cons_append, run, verb?_of_dash e.head?_option]
    simp only [step_option takes.1 givable.1 fresh.head]
    exact ih takes.2 givable.2 fresh.tail

/-! ## Scanning values behind two dashes -/

theorem run_dashes (l : Level) (g : Given) (places : List Argument) (rest : List String) :
    run l ⟨g, .none, places, false⟩ ("--" :: rest) = run l ⟨g, .none, places, true⟩ rest := by
  have noVerb : verb? l ⟨g, .none, places, false⟩ "--" = none :=
    verb?_of_dash rfl l g places
  rw [run, noVerb]
  rfl

theorem settle_frame {s t : Scan} (h : s.settle = .ok t) :
    t.places = s.places ∧ t.valuesOnly = s.valuesOnly := by
  obtain ⟨g, pending, places, valuesOnly⟩ := s
  cases pending with
  | none =>
    cases h
    exact ⟨rfl, rfl⟩
  | awaiting a => cases h
  | filled a text =>
    simp only [settle, keep] at h
    split at h
    · cases h
    · split at h <;> cases h
      exact ⟨rfl, rfl⟩

/-- Values that have a place are scanned, whatever they look like. -/
theorem run_places {s : Scan} {more : List Argument} (givable : ∀ e ∈ es, e.Givable) (fresh : g.Fresh es)
    (settled : s.settle = .ok ⟨g, .none, es.map Entry.argument ++ more, true⟩) :
    ∃ t, run l s (es.map Entry.text) = .ok (t, none) ∧
      t.settle = .ok ⟨g.insertAll es, .none, more, true⟩ := by
  induction es generalizing s g with
  | nil => exact ⟨s, rfl, settled⟩
  | cons e es ih =>
    rw [List.forall_mem_cons] at givable
    obtain ⟨places, valuesOnly⟩ := settle_frame settled
    -- the value is taken into the next place, and what was there before is settled
    have noVerb : s.verb? l e.text = none := by
      unfold verb?
      split
      · rfl
      · rw [← valuesOnly]
        rfl
    have stepped : s.step l e.text =
        .ok ⟨g, .filled e.argument e.text, es.map Entry.argument ++ more, true⟩ := by
      rw [step, ← valuesOnly, if_pos rfl, place, ← places]
      simp only [List.map_cons, List.cons_append, settled]
      rfl
    rw [List.map_cons, run, noVerb]
    simp only [stepped]
    exact ih givable.2 fresh.tail (keep_text givable.1 fresh.head .none _ true)

end Scan

end AdminPanel.CommandLine
