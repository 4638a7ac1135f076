import AdminPanel.Settings.Document
import AdminPanel.Proofs.Json.Members
import AdminPanel.Proofs.Json.Skipping
import AdminPanel.Proofs.Time.ReadingBack

/-!
# Settings documents

Which documents hold which settings: the members in any order, each spelled in any way of the format,
some of the five left out, and members of other names with any values between them.

## The architecture

* **`Gives s`** — the text of a value gives what the settings `s` have under its name; under a name
  that is none of theirs, every value does.
* **`IsDocument s names`** — a text is an object whose members, in the order of `names`, give what `s`
  has.
* **`Members.given`** — what has been read when the members of some names have been: the invariant
  that one member keeps (`reads_member`).
* **`ofDocument_of_isDocument`** — such a document is read as `s.only names`: what is there counts, and
  for the rest the defaults do. What is printed is such a document (`isDocument_document`).
-/

namespace AdminPanel.Settings

open Json Json.Reader

/-! ## Documents -/

/-- The settings of some members only; the others have their defaults. -/
def only (s : Settings) (names : List String) : Settings :=
  let d : Settings := {}
  { baseAddress := if "base_address" ∈ names then s.baseAddress else d.baseAddress
    backend := if "storage" ∈ names then s.backend else d.backend
    lastAccount := if "last_account" ∈ names then s.lastAccount else d.lastAccount
    lastLogin := if "last_login" ∈ names then s.lastLogin else d.lastLogin
    logDir := if "log_dir" ∈ names then s.logDir else d.logDir }

/-- A text is null, or spells a value that is there. -/
def SpellsOption {α : Type} (spelled : α → List Char → Prop) : Option α → List Char → Prop
  | none, text => text = ['n', 'u', 'l', 'l']
  | some a, text => spelled a text

/-- A text is a string that names an instant. -/
def SpellsInstant (t : Time.Instant) (text : List Char) : Prop :=
  ∃ s, Spells s text ∧ Time.Instant.read s = .ok t

/-- A text is the value that the settings have under a name, or any value under another name. -/
inductive Gives (s : Settings) : String → List Char → Prop where
  | baseAddress {v : List Char} (text : Spells s.baseAddress v) : Gives s "base_address" v
  | storage {v : List Char} (text : Spells s.backend.name v) : Gives s "storage" v
  | lastAccount {v : List Char} (text : SpellsOption Spells s.lastAccount v) :
    Gives s "last_account" v
  | lastLogin {v : List Char} (text : SpellsOption SpellsInstant s.lastLogin v) :
    Gives s "last_login" v
  | logDir {v : List Char} (text : SpellsOption Spells s.logDir v) : Gives s "log_dir" v
  | unknown {name : String} {v : List Char} (other : name ∉ memberNames)
    (text : IsText .value v) : Gives s name v

/-- The members of an object, with the names in their order. -/
inductive IsMembers (s : Settings) : List String → List Char → Prop where
  | last {name : String} {n g₁ g₂ v g₃ : List Char} (spelled : SpellsChars name.toList n)
      (gap₁ : IsGap g₁) (gap₂ : IsGap g₂) (gives : Gives s name v) (gap₃ : IsGap g₃) :
    IsMembers s [name] ('"' :: (n ++ '"' :: (g₁ ++ ':' :: (g₂ ++ (v ++ g₃)))))
  | member {name : String} {names : List String} {n g₁ g₂ v g₃ g₄ cs : List Char}
      (spelled : SpellsChars name.toList n) (gap₁ : IsGap g₁) (gap₂ : IsGap g₂)
      (gives : Gives s name v) (gap₃ : IsGap g₃) (gap₄ : IsGap g₄)
      (more : IsMembers s names cs) :
    IsMembers s (name :: names)
      ('"' :: (n ++ '"' :: (g₁ ++ ':' :: (g₂ ++ (v ++ (g₃ ++ ',' :: (g₄ ++ cs)))))))

/-- An object with members of some names, which give what the settings have. -/
inductive IsDocument (s : Settings) : List String → List Char → Prop where
  | empty {g₁ g₂ g₃ : List Char} (gap₁ : IsGap g₁) (gap₂ : IsGap g₂) (gap₃ : IsGap g₃) :
    IsDocument s [] (g₁ ++ '\x7b' :: (g₂ ++ '\x7d' :: g₃))
  | members {names : List String} {g₁ g₂ cs g₃ : List Char} (gap₁ : IsGap g₁) (gap₂ : IsGap g₂)
      (members : IsMembers s names cs) (gap₃ : IsGap g₃) :
    IsDocument s names (g₁ ++ '\x7b' :: (g₂ ++ (cs ++ '\x7d' :: g₃)))

/-! ## Values -/

variable {s : Settings} {g v tail : List Char}

theorem reads_typedString {text : String} (gap : IsGap g) (spelled : Spells text v)
    (expected : String) (tail : List Char) :
    Reads (typedString expected) (g ++ (v ++ tail)) text tail := by
  obtain ⟨body, rfl, chars⟩ := spelled
  rw [List.cons_append, List.append_assoc, List.singleton_append]
  refine (reads_peekToken_gap gap rfl _).bind ?_
  exact (reads_skip '"' _).bind (reads_string_of_spellsChars chars tail)

theorem reads_namedBackend (b : Backend) (tail : List Char) :
    Reads (namedBackend b.name) tail b tail := by
  rw [namedBackend, Backend.ofName?_name]
  exact Reads.pure b tail

theorem reads_backendMember {b : Backend} (gap : IsGap g) (spelled : Spells b.name v)
    (tail : List Char) : Reads backendMember (g ++ (v ++ tail)) b tail := by
  obtain ⟨body, rfl, chars⟩ := spelled
  rw [List.cons_append, List.append_assoc, List.singleton_append]
  refine (reads_peekToken_gap gap rfl _).bind ((reads_skip '"' _).bind ?_)
  exact (reads_string_of_spellsChars chars tail).bind (reads_namedBackend b tail)

theorem reads_instantMember {t : Time.Instant} (gap : IsGap g) (spelled : SpellsInstant t v)
    (tail : List Char) : Reads instantMember (g ++ (v ++ tail)) t tail := by
  obtain ⟨text, spelled, named⟩ := spelled
  refine (reads_typedString gap spelled _ tail).bind ?_
  rw [named]
  exact Reads.pure t tail

/-- A value that may be null, for all that is spelled as a string. -/
theorem reads_optional {α : Type} {r : Reader α} {spelled : α → List Char → Prop} {a : Option α}
    (quoted : ∀ a v, spelled a v → ∃ text, Spells text v)
    (reads : ∀ a v g, IsGap g → spelled a v → ∀ tail, Reads r (g ++ (v ++ tail)) a tail)
    (gap : IsGap g) (h : SpellsOption spelled a v) (tail : List Char) :
    Reads (optional r) (g ++ (v ++ tail)) a tail := by
  cases a with
  | none =>
    cases h
    refine (reads_peekToken_gap gap rfl _).bind ((reads_skip 'n' _).bind ?_)
    exact (reads_literal ['u', 'l', 'l'] tail).bind (Reads.pure none tail)
  | some a =>
    have behind := reads a v [] (by simp [IsGap]) h tail
    obtain ⟨text, body, rfl, -⟩ := quoted a v h
    exact (reads_peekToken_gap gap rfl _).bind (behind.bind (Reads.pure (some a) tail))

/-! ## Members -/

namespace Members

/-- What has been read when the members of some names have been. -/
def given (s : Settings) (names : List String) : Members where
  baseAddress := if "base_address" ∈ names then some s.baseAddress else none
  backend := if "storage" ∈ names then some s.backend else none
  lastAccount := if "last_account" ∈ names then some s.lastAccount else none
  lastLogin := if "last_login" ∈ names then some s.lastLogin else none
  logDir := if "log_dir" ∈ names then some s.logDir else none

theorem given_congr {names names' : List String} (h : ∀ name, name ∈ names ↔ name ∈ names') :
    given s names = given s names' := by
  simp only [given, h]

/-- What one more name adds. -/
theorem given_cons (s : Settings) (name : String) (names : List String) :
    given s (name :: names) =
      match name with
      | "base_address" => { given s names with baseAddress := some s.baseAddress }
      | "storage" => { given s names with backend := some s.backend }
      | "last_account" => { given s names with lastAccount := some s.lastAccount }
      | "last_login" => { given s names with lastLogin := some s.lastLogin }
      | "log_dir" => { given s names with logDir := some s.logDir }
      | _ => given s names := by
  split <;> simp_all [given, eq_comm]

theorem given_cons_of_unknown (s : Settings) {name : String} (other : name ∉ memberNames)
    (names : List String) : given s (name :: names) = given s names := by
  simp only [memberNames, List.mem_cons, List.not_mem_nil, or_false, not_or] at other
  simp [given, other, eq_comm]

theorem settings_given (s : Settings) (names : List String) :
    (given s names).settings = s.only names := by
  have getD {α : Type} (p : Prop) [Decidable p] (a d : α) :
      (if p then some a else none).getD d = if p then a else d := by split <;> rfl
  simp only [given, settings, only, getD]

/-- Of the settings' own names, those that have been read are there. -/
theorem has_given (s : Settings) (names : List String) (name : String) :
    (given s names).has name = true ↔ name ∈ memberNames ∧ name ∈ names := by
  have isSome {α : Type} (p : Prop) [Decidable p] (a : α) :
      (if p then some a else none).isSome = true ↔ p := by split <;> simp [*]
  unfold has
  split <;> simp_all [given, memberNames]

end Members

/-- The value of one more member is read, whatever has been before. -/
theorem reads_member {name : String} {names : List String} (gap : IsGap g)
    (gives : Gives s name v) (ends : EndsNumber tail) :
    Reads ((Members.given s names).read name) (g ++ (v ++ tail))
      (Members.given s (name :: names)) tail := by
  -- one case for each member that is known, and one for any other, which is skipped
  cases gives with
  | baseAddress text =>
    refine (reads_typedString gap text _ tail).bind ?_
    rw [Members.given_cons]
    exact Reads.pure _ tail
  | storage text =>
    refine (reads_backendMember gap text tail).bind ?_
    rw [Members.given_cons]
    exact Reads.pure _ tail
  | lastAccount text =>
    refine (reads_optional (fun a v h => ⟨a, h⟩)
      (fun a v g gap h => reads_typedString gap h _) gap text tail).bind ?_
    rw [Members.given_cons]
    exact Reads.pure _ tail
  | lastLogin text =>
    refine (reads_optional (fun a v h => ⟨_, h.choose_spec.1⟩)
      (fun a v g gap h => reads_instantMember gap h) gap text tail).bind ?_
    rw [Members.given_cons]
    exact Reads.pure _ tail
  | logDir text =>
    refine (reads_optional (fun a v h => ⟨a, h⟩)
      (fun a v g gap h => reads_typedString gap h _) gap text tail).bind ?_
    rw [Members.given_cons]
    exact Reads.pure _ tail
  | unknown other text =>
    rw [Members.given_cons_of_unknown s other]
    simp only [memberNames, List.mem_cons, List.not_mem_nil, or_false, not_or] at other
    obtain ⟨address, storage, account, login, logs⟩ := other
    unfold Members.read
    split
    · exact absurd rfl address
    · exact absurd rfl storage
    · exact absurd rfl account
    · exact absurd rfl login
    · exact absurd rfl logs
    · exact (reads_skipValue gap text ends).bind (Reads.pure _ tail)

/-! ## Objects -/

theorem reads_hasMember_gap {g : List Char} (gap : IsGap g) (cs : List Char) :
    Reads (hasMember true) (g ++ '"' :: cs) true ('"' :: cs) :=
  (reads_peekToken_gap gap rfl cs).bind (Reads.pure true _)

theorem reads_hasMember_comma {g₁ g₂ : List Char} (gap₁ : IsGap g₁) (gap₂ : IsGap g₂)
    (cs : List Char) :
    Reads (hasMember false) (g₁ ++ ',' :: (g₂ ++ '"' :: cs)) true ('"' :: cs) := by
  refine (reads_peekToken_gap gap₁ rfl _).bind ((reads_skip ',' _).bind ?_)
  exact (reads_peekToken_gap gap₂ rfl cs).bind (Reads.pure true _)

theorem reads_objectMembers_end (first : Bool) (m : Members) (gap : IsGap g) (tail : List Char)
    (fuel : Nat) : Reads (objectMembers first m (fuel + 1)) (g ++ '\x7d' :: tail) m tail := by
  rw [objectMembers]
  refine (reads_hasMember_end first gap tail).bind ?_
  exact (reads_skip '\x7d' tail).bind (Reads.pure m tail)

/-- One member is read that has not been read before, and the reading goes on behind it. -/
theorem reads_objectMembers_cons {first : Bool} {front n cs rest : List Char} {name : String}
    {done : List String} {fuel : Nat} {m : Members}
    (more : Reads (hasMember first) front true ('"' :: (n ++ '"' :: (g ++ ':' :: cs))))
    (spelled : SpellsChars name.toList n) (gap : IsGap g)
    (fresh : name ∈ memberNames → name ∉ done)
    (member : Reads ((Members.given s done).read name) cs (Members.given s (name :: done)) tail)
    (behind : Reads (objectMembers false (Members.given s (name :: done)) fuel) tail m rest) :
    Reads (objectMembers first (Members.given s done) (fuel + 1)) front m rest := by
  have unread : (Members.given s done).has name = false := by
    rw [Bool.eq_false_iff, ne_eq, Members.has_given]
    exact fun h => fresh h.1 h.2
  rw [objectMembers]
  refine more.bind ?_
  refine (reads_skip '"' _).bind ((reads_string_of_spellsChars spelled _).bind ?_)
  simp only [unread, Bool.false_eq_true, ↓reduceIte]
  exact (reads_colon gap cs).bind (member.bind behind)

/-- Members that have not been read before are read up to the end of the object. -/
theorem reads_objectMembers {names : List String} {cs : List Char} (h : IsMembers s names cs)
    (rest : List Char) (done : List String) {first : Bool} {front : List Char} {fuel : Nat}
    (more : Reads (hasMember first) front true (cs ++ '\x7d' :: rest))
    (fresh : ∀ name ∈ memberNames, names.count name ≤ 1 ∧ (name ∈ names → name ∉ done))
    (enough : cs.length < fuel) :
    Reads (objectMembers first (Members.given s done) fuel) front
      (Members.given s (names.reverse ++ done)) rest := by
  -- induction on the members; what has been read is known by its names
  induction h generalizing first front done fuel with
  | @last name n g₁ g₂ v g₃ spelled gap₁ gap₂ gives gap₃ =>
    obtain ⟨fuel, rfl⟩ : ∃ k, fuel = k + 1 + 1 := ⟨fuel - 2, by simp at enough; omega⟩
    have ends : EndsNumber (g₃ ++ '\x7d' :: rest) := endsNumber_gap gap₃ (.inr (.inr rfl))
    refine reads_objectMembers_cons (by simpa using more) spelled gap₁
      (fun known => (fresh name known).2 (by simp)) (reads_member gap₂ gives ends) ?_
    exact reads_objectMembers_end false _ gap₃ rest fuel
  | @member name names n g₁ g₂ v g₃ g₄ cs spelled gap₁ gap₂ gives gap₃ gap₄ members ih =>
    obtain ⟨fuel, rfl⟩ : ∃ k, fuel = k + 1 := ⟨fuel - 1, by omega⟩
    have ends : EndsNumber (g₃ ++ ',' :: (g₄ ++ (cs ++ '\x7d' :: rest))) :=
      endsNumber_gap gap₃ (.inl rfl)
    refine reads_objectMembers_cons (by simpa using more) spelled gap₁
      (fun known => (fresh name known).2 (by simp)) (reads_member gap₂ gives ends) ?_
    have next : Reads (hasMember false) (g₃ ++ ',' :: (g₄ ++ (cs ++ '\x7d' :: rest))) true
        (cs ++ '\x7d' :: rest) := by
      cases members with
      | last => exact reads_hasMember_comma gap₃ gap₄ _
      | member => exact reads_hasMember_comma gap₃ gap₄ _
    have behind := ih (name :: done) next ?_ (Nat.lt_of_succ_lt_succ ?_ : cs.length < fuel)
    · simpa using behind
    · intro other known
      obtain ⟨once, apart⟩ := fresh other known
      rw [List.count_cons] at once
      refine ⟨by omega, fun later => ?_⟩
      have notDone := apart (List.mem_cons_of_mem _ later)
      have ne : other ≠ name := by
        rintro rfl
        have := List.one_le_count_iff.mpr later
        simp at once
        omega
      simp [ne, notDone]
    · simp at enough
      omega

/-! ## Documents -/

theorem reads_reader_empty {g₁ g₂ : List Char} (gap₁ : IsGap g₁) (gap₂ : IsGap g₂)
    (tail : List Char) : Reads reader (g₁ ++ '\x7b' :: (g₂ ++ '\x7d' :: tail)) (s.only []) tail := by
  refine (reads_peekToken_gap gap₁ rfl _).bind ((reads_skip '\x7b' _).bind ?_)
  refine (reads_remaining _).bind ?_
  refine (reads_objectMembers_end true (Members.given s []) gap₂ tail _).bind ?_
  rw [Members.settings_given]
  exact Reads.pure _ tail

theorem reads_reader_members {names : List String} {cs g₁ g₂ : List Char} (gap₁ : IsGap g₁)
    (gap₂ : IsGap g₂) (members : IsMembers s names cs)
    (once : ∀ name ∈ memberNames, names.count name ≤ 1) (tail : List Char) :
    Reads reader (g₁ ++ '\x7b' :: (g₂ ++ (cs ++ '\x7d' :: tail))) (s.only names) tail := by
  have first : Reads (hasMember true) (g₂ ++ (cs ++ '\x7d' :: tail)) true (cs ++ '\x7d' :: tail) := by
    cases members with
    | last | member => exact reads_hasMember_gap gap₂ _
  have same : Members.given s (names.reverse ++ []) = Members.given s names :=
    Members.given_congr fun name => by simp
  refine (reads_peekToken_gap gap₁ rfl _).bind ((reads_skip '\x7b' _).bind ?_)
  refine (reads_remaining _).bind ?_
  refine (reads_objectMembers members tail [] first
    (fun name known => ⟨once name known, fun _ => by simp⟩) ?_).bind ?_
  · simp only [List.length_append, List.length_cons]
    omega
  · rw [same, Members.settings_given]
    exact Reads.pure _ tail

/-- **A document gives the settings of its members**: what it holds counts, wherever it stands and
however it is spelled, and the defaults do for the rest. -/
theorem ofDocument_of_isDocument {names : List String} {cs : List Char}
    (h : IsDocument s names cs) (once : ∀ name ∈ memberNames, names.count name ≤ 1) :
    ofDocument (String.ofList cs) = .ok (s.only names) := by
  cases h with
  | empty gap₁ gap₂ gap₃ =>
    exact readAll_of_reads (by simpa using reads_reader_empty gap₁ gap₂ _) gap₃
  | members gap₁ gap₂ members gap₃ =>
    exact readAll_of_reads (by simpa using reads_reader_members gap₁ gap₂ members once _) gap₃

/-! ## The printed document -/

theorem isGap_lineBreak (level : Nat) : IsGap (lineBreak level) :=
  fun _ h => isSeparator_of_mem_lineBreak h

theorem spellsOption_printChars {α : Type} {spelled : α → List Char → Prop} {value : α → Value}
    (h : ∀ a, spelled a ((value a).printChars 1)) (a : Option α) :
    SpellsOption spelled a ((Value.option value a).printChars 1) := by
  cases a with
  | none => rfl
  | some a => exact h a

/-- Printed members stand on lines of their own, with a comma behind all but the last. -/
theorem isMembers_printed (m : String × Value) (ms : List (String × Value))
    (h : ∀ m' ∈ m :: ms, Gives s m'.1 (m'.2.printChars 1)) :
    IsMembers s ((m :: ms).map (·.1)) (memberText m.1 (m.2.printChars 1)
      ++ ((ms.flatMap fun m' => ',' :: (lineBreak 1 ++ memberText m'.1 (m'.2.printChars 1)))
        ++ lineBreak 0)) := by
  have blank : IsGap [' '] := by simp [IsGap, isSeparator]
  -- induction on the members behind the first
  induction ms generalizing m with
  | nil =>
    have last := IsMembers.last (spellsChars_flatMap m.1.toList) isGap_nil blank
      (h m List.mem_cons_self) (isGap_lineBreak 0)
    simpa [memberText, stringChars] using last
  | cons m' ms ih =>
    have behind := ih m' fun m'' hm => h m'' (List.mem_cons_of_mem _ hm)
    have more := IsMembers.member (spellsChars_flatMap m.1.toList) isGap_nil blank
      (h m List.mem_cons_self) isGap_nil (isGap_lineBreak 1) behind
    simpa [memberText, stringChars] using more

/-- What is printed is a document of all five members. -/
theorem isDocument_document (s : Settings) : IsDocument s memberNames s.document.toList := by
  have instant (t : Time.Instant) : SpellsInstant t ((Value.string t.rfc3339).printChars 1) :=
    ⟨t.rfc3339, spells_stringChars _, Time.Instant.read_rfc3339 t⟩
  have text (v : String) : Spells v ((Value.string v).printChars 1) := spells_stringChars v
  have members := isMembers_printed ("base_address", .string s.baseAddress)
    [("storage", .string s.backend.name),
      ("last_account", .option .string s.lastAccount),
      ("last_login", .option (fun t => .string t.rfc3339) s.lastLogin),
      ("log_dir", .option .string s.logDir)] (by
    simp only [List.mem_cons, List.not_mem_nil, or_false, forall_eq_or_imp, forall_eq]
    exact ⟨.baseAddress (text _), .storage (text _), .lastAccount (spellsOption_printChars text _),
      .lastLogin (spellsOption_printChars instant _), .logDir (spellsOption_printChars text _)⟩)
  have whole := IsDocument.members isGap_nil (isGap_lineBreak 1) members isGap_nil
  simpa [document, value, Value.print, Value.printChars, printMembers, bracketed, memberText,
    memberNames] using whole

/-- **Settings are read back from their document.** -/
theorem ofDocument_document (s : Settings) : ofDocument s.document = .ok s := by
  have read := ofDocument_of_isDocument (isDocument_document s) (by decide)
  simpa [only, memberNames] using read

end AdminPanel.Settings
