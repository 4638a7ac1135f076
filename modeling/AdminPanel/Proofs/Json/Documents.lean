import AdminPanel.Json.Document
import AdminPanel.Proofs.Json.Numerals

/-!
# Which texts are documents

The grammar of documents with the value that each text has: numbers in every notation, strings in every
spelling, separators between any two tokens, names that stand twice, and lists and objects nested no
deeper than the format allows.

## The architecture

* **`Tells`** — a text of the grammar and what it tells: a value, items, a member, or members. Separators
  stand behind the tokens.
* **`reads_of_tells`** — what a text tells is read from it: induction on the grammar, with one statement for
  each kind of text (`Readable`).
* **`tells_of_value`** — what has been read stands in a text that tells it: induction on the depth, and on
  the turns of the reader in lists and objects.
* **`parse_eq_ok_iff`** — both together, for whole texts.
-/

namespace AdminPanel.Json

/-! ## The grammar -/

/-- Members in order of their names, by the order in which they stand: of two with one name the last
counts. -/
def Members.ofList {α : Type} (ms : List (String × α)) : List (String × α) :=
  ms.foldl (fun known m => Members.insert m.1 m.2 known) []

/-- What a text tells. -/
inductive Sense where
  | value (v : Value)
  | items (vs : List Value)
  | member (name : String) (v : Value)
  | members (ms : List (String × Value))

/-- The texts of the grammar, with lists and objects nested at most some depth, and what they tell. Items
and members are one at least. -/
inductive Tells : Nat → Sense → List Char → Prop where
  | null {depth : Nat} : Tells depth (.value .null) ['n', 'u', 'l', 'l']
  | true {depth : Nat} : Tells depth (.value (.bool true)) ['t', 'r', 'u', 'e']
  | false {depth : Nat} : Tells depth (.value (.bool false)) ['f', 'a', 'l', 's', 'e']
  | number {depth : Nat} {num : Numeral} {n : Number} (wellFormed : num.WellFormed)
      (counts : num.value? true = some n) : Tells depth (.value (.number n)) num.chars
  | negative {depth : Nat} {num : Numeral} {n : Number} (wellFormed : num.WellFormed)
      (counts : num.value? false = some n) : Tells depth (.value (.number n)) ('-' :: num.chars)
  | string {depth : Nat} {s : String} {text : List Char} (spelled : Spells s text) :
    Tells depth (.value (.string s)) text
  | emptyList {depth : Nat} {g : List Char} (gap : IsGap g) :
    Tells (depth + 1) (.value (.array [])) ('[' :: (g ++ [']']))
  | list {depth : Nat} {vs : List Value} {g cs : List Char} (gap : IsGap g)
      (items : Tells depth (.items vs) cs) :
    Tells (depth + 1) (.value (.array vs)) ('[' :: (g ++ (cs ++ [']'])))
  | emptyObject {depth : Nat} {g : List Char} (gap : IsGap g) :
    Tells (depth + 1) (.value (.object [])) ('\x7b' :: (g ++ ['\x7d']))
  | object {depth : Nat} {ms : List (String × Value)} {g cs : List Char} (gap : IsGap g)
      (members : Tells depth (.members ms) cs) :
    Tells (depth + 1) (.value (.object (Members.ofList ms))) ('\x7b' :: (g ++ (cs ++ ['\x7d'])))
  | lastItem {depth : Nat} {v : Value} {cs g : List Char} (item : Tells depth (.value v) cs)
      (gap : IsGap g) : Tells depth (.items [v]) (cs ++ g)
  | item {depth : Nat} {v : Value} {vs : List Value} {cs g₁ g₂ more : List Char}
      (item : Tells depth (.value v) cs) (gap₁ : IsGap g₁) (gap₂ : IsGap g₂)
      (others : Tells depth (.items vs) more) :
    Tells depth (.items (v :: vs)) (cs ++ (g₁ ++ ',' :: (g₂ ++ more)))
  | member {depth : Nat} {name : String} {v : Value} {n g₁ g₂ cs : List Char} (spelled : Spells name n)
      (gap₁ : IsGap g₁) (gap₂ : IsGap g₂) (value : Tells depth (.value v) cs) :
    Tells depth (.member name v) (n ++ (g₁ ++ ':' :: (g₂ ++ cs)))
  | lastMember {depth : Nat} {name : String} {v : Value} {cs g : List Char}
      (member : Tells depth (.member name v) cs) (gap : IsGap g) :
    Tells depth (.members [(name, v)]) (cs ++ g)
  | members {depth : Nat} {name : String} {v : Value} {ms : List (String × Value)}
      {cs g₁ g₂ more : List Char} (member : Tells depth (.member name v) cs) (gap₁ : IsGap g₁)
      (gap₂ : IsGap g₂) (others : Tells depth (.members ms) more) :
    Tells depth (.members ((name, v) :: ms)) (cs ++ (g₁ ++ ',' :: (g₂ ++ more)))

/-- A text that is one value, with separators around it. -/
def IsDocument (text : List Char) (v : Value) : Prop :=
  ∃ g₁ cs g₂, IsGap g₁ ∧ IsGap g₂ ∧ Tells Reader.maxDepth (.value v) cs ∧ text = g₁ ++ (cs ++ g₂)

/-! ## What a text opens with -/

theorem Numeral.WellFormed.exists_digit {num : Numeral} (h : num.WellFormed) :
    ∃ d more, num.chars = d :: more ∧ d.isDigit = true := by
  rcases h.whole with zero | ⟨digits, -⟩
  · exact ⟨'0', _, by rw [Numeral.chars, zero]; rfl, by decide⟩
  · obtain ⟨d, more, whole, digit⟩ := Reader.exists_cons_of_isDigits digits
    exact ⟨d, _, by rw [Numeral.chars, whole]; rfl, digit⟩

theorem Spells.exists_quote {s : String} {text : List Char} (h : Spells s text) :
    ∃ more, text = '"' :: more := by
  obtain ⟨body, rfl, -⟩ := h
  exact ⟨_, rfl⟩

/-- What stands for something else than a digit. -/
theorem ne_of_isDigit {c d : Char} (h : c.isDigit = true) (other : d.isDigit = false) : c ≠ d := by
  rintro rfl
  rw [h] at other
  cases other

variable {depth : Nat} {cs rest : List Char} {v : Value}

/-- The first character of a value tells it from a separator and from the end of a list. -/
theorem exists_cons_of_tells (h : Tells depth (.value v) cs) :
    ∃ c more, cs = c :: more ∧ Reader.isSeparator c = false ∧ c ≠ ']' := by
  cases h with
  | number wellFormed =>
    obtain ⟨d, more, chars, digit⟩ := wellFormed.exists_digit
    refine ⟨d, more, chars, ?_, ne_of_isDigit digit (by decide)⟩
    simp only [Reader.isSeparator, Bool.or_eq_false_iff, beq_eq_false_iff_ne]
    exact ⟨⟨⟨ne_of_isDigit digit (by decide), ne_of_isDigit digit (by decide)⟩,
      ne_of_isDigit digit (by decide)⟩, ne_of_isDigit digit (by decide)⟩
  | string spelled =>
    obtain ⟨more, rfl⟩ := spelled.exists_quote
    exact ⟨_, _, rfl, rfl, by decide⟩
  | null | true | false | negative | emptyList | list | emptyObject | object =>
    exact ⟨_, _, rfl, rfl, by decide⟩

/-! ## Members with other values -/

theorem Members.insert_map {α β : Type} (f : α → β) (name : String) (a : α) (ms : List (String × α)) :
    Members.insert name (f a) (ms.map fun m => (m.1, f m.2)) =
      (Members.insert name a ms).map fun m => (m.1, f m.2) := by
  induction ms with
  | nil => rfl
  | cons m rest ih =>
    obtain ⟨other, held⟩ := m
    simp only [List.map_cons, Members.insert, ih]
    split
    · rfl
    · split <;> rfl

theorem Members.foldl_insert_map {α β : Type} (f : α → β) (ms known : List (String × α)) :
    (ms.map fun m => (m.1, f m.2)).foldl (fun known m => Members.insert m.1 m.2 known)
        (known.map fun m => (m.1, f m.2)) =
      (ms.foldl (fun known m => Members.insert m.1 m.2 known) known).map fun m => (m.1, f m.2) := by
  induction ms generalizing known with
  | nil => rfl
  | cons m rest ih =>
    have step := Members.insert_map f m.1 m.2 known
    rw [List.map_cons, List.foldl_cons, List.foldl_cons, step, ih]

namespace Reader

/-! ## Reading a text of the grammar -/

/-- The items of a list from the next one on. -/
def itemsFrom {α : Type} (item : Reader α) (fuel : Nat) : Reader (List α) := do
  let a ← item
  return a :: (← items item false fuel)

/-- The members of an object from the next one on, whose quote is next. -/
def membersFrom {α : Type} (item : Reader α) (known : List (String × α)) (fuel : Nat) :
    Reader (List (String × α)) := do
  skip
  let name ← string
  colon
  let a ← item
  members item false (Members.insert name a known) fuel

/-- How a text that tells something is read in front of what ends it. -/
def Readable (depth : Nat) : Sense → List Char → Prop
  | .value v, cs => ∀ {g rest}, IsGap g → EndsNumber rest →
      Reads (value depth) (g ++ (cs ++ rest)) v rest
  | .items vs, cs => ∀ {rest fuel}, cs.length ≤ fuel →
      Reads (itemsFrom (value depth) fuel) (cs ++ ']' :: rest) vs rest
  | .member name v, cs => ∀ {rest known fuel result end'}, EndsNumber rest →
      Reads (members (value depth) false (Members.insert name v known) fuel) rest result end' →
      Reads (membersFrom (value depth) known fuel) (cs ++ rest) result end'
  | .members ms, cs => ∀ {rest known fuel}, cs.length ≤ fuel →
      Reads (membersFrom (value depth) known fuel) (cs ++ '\x7d' :: rest)
        (ms.foldl (fun known m => Members.insert m.1 m.2 known) known) rest

theorem reads_number_value {d : Char} {more : List Char} {n : Number} {g : List Char} (gap : IsGap g)
    (digit : d.isDigit = true) (h : Reads (number true) (d :: more) n rest) :
    Reads (value depth) (g ++ d :: more) (.number n) rest := by
  have sep : isSeparator d = false := by
    simp only [isSeparator, Bool.or_eq_false_iff, beq_eq_false_iff_ne]
    exact ⟨⟨⟨ne_of_isDigit digit (by decide), ne_of_isDigit digit (by decide)⟩,
      ne_of_isDigit digit (by decide)⟩, ne_of_isDigit digit (by decide)⟩
  unfold value
  refine (reads_peekToken_gap gap sep more).bind ?_
  have word : d ≠ 'n' ∧ d ≠ 't' ∧ d ≠ 'f' ∧ d ≠ '-' ∧ d ≠ '"' ∧ d ≠ '[' ∧ d ≠ '\x7b' := by
    refine ⟨?_, ?_, ?_, ?_, ?_, ?_, ?_⟩ <;> exact ne_of_isDigit digit (by decide)
  obtain ⟨n, t, f, minus, quote, bracket, brace⟩ := word
  simp only [digit, ↓reduceIte]
  exact h.bind (Reads.pure _ rest)

theorem reads_word (d : Char) (word : List Char) (v : Value) (rest : List Char) :
    Reads (do skip; literal word; pure v) (d :: (word ++ rest)) v rest :=
  (reads_skip d _).bind ((reads_literal word rest).bind (Reads.pure v rest))

/-! ### Lists -/

/-- A list is read if its items are, with as many turns as characters are left. -/
theorem reads_list {g text : List Char} (gap : IsGap g) {vs : List Value}
    (h : Reads (items (value depth) true (text.length + 1)) text vs rest) :
    Reads (value (depth + 1)) (g ++ '[' :: text) (.array vs) rest := by
  unfold value
  exact (reads_peekToken_gap gap rfl _).bind ((reads_skip '[' _).bind ((reads_remaining _).bind
    (h.bind (Reads.pure _ rest))))

section

variable {α : Type} {item : Reader α} {fuel : Nat} {as : List α}

theorem reads_items_end (first : Bool) {g : List Char} (gap : IsGap g) (rest : List Char) :
    Reads (items item first (fuel + 1)) (g ++ ']' :: rest) [] rest := by
  have token := reads_peekToken_gap gap (c := ']') rfl rest
  exact (token.bind (Reads.pure Bool.false _)).bind ((reads_skip ']' rest).bind (Reads.pure [] rest))

/-- The first item stands behind separators. -/
theorem reads_items_first {g : List Char} (gap : IsGap g)
    (open' : ∃ c more, cs = c :: more ∧ isSeparator c = false ∧ c ≠ ']')
    (h : Reads (itemsFrom item fuel) cs as rest) :
    Reads (items item true (fuel + 1)) (g ++ cs) as rest := by
  obtain ⟨c, more, rfl, sep, notEnd⟩ := open'
  have token := reads_peekToken_gap gap sep more
  have goesOn : Reads (hasItem true) (g ++ c :: more) true (c :: more) := by
    refine token.bind ?_
    split
    · next none' => cases none'
    · next bracket => exact absurd (Option.some.inj bracket) notEnd
    · exact Reads.pure _ _
  exact goesOn.bind h

/-- The other items stand behind a comma. -/
theorem reads_items_comma {g₁ g₂ : List Char} (gap₁ : IsGap g₁) (gap₂ : IsGap g₂)
    (open' : ∃ c more, cs = c :: more ∧ isSeparator c = false ∧ c ≠ ']')
    (h : Reads (itemsFrom item fuel) cs as rest) :
    Reads (items item false (fuel + 1)) (g₁ ++ ',' :: (g₂ ++ cs)) as rest := by
  obtain ⟨c, more, rfl, sep, notEnd⟩ := open'
  have token := reads_peekToken_gap gap₂ sep more
  have goesOn : Reads (hasItem false) (g₁ ++ ',' :: (g₂ ++ c :: more)) true (c :: more) := by
    refine (reads_peekToken_gap gap₁ rfl _).bind ((reads_skip ',' _).bind (token.bind ?_))
    split
    · next none' => cases none'
    · next bracket => exact absurd (Option.some.inj bracket) notEnd
    · exact Reads.pure _ _
  exact goesOn.bind h

end

/-! ### Objects -/

/-- An object is read if its members are, with as many turns as characters are left. -/
theorem reads_object {g text : List Char} (gap : IsGap g) {ms : List (String × Value)}
    (h : Reads (members (value depth) true [] (text.length + 1)) text ms rest) :
    Reads (value (depth + 1)) (g ++ '\x7b' :: text) (.object ms) rest := by
  unfold value
  exact (reads_peekToken_gap gap rfl _).bind ((reads_skip _ _).bind ((reads_remaining _).bind
    (h.bind (Reads.pure _ rest))))

section

variable {α : Type} {item : Reader α} {fuel : Nat} {known as : List (String × α)}

theorem reads_members_first {g more : List Char} (gap : IsGap g)
    (h : Reads (membersFrom item known fuel) ('"' :: more) as rest) :
    Reads (members item true known (fuel + 1)) (g ++ '"' :: more) as rest := by
  have goesOn : Reads (hasMember true) (g ++ '"' :: more) true ('"' :: more) :=
    (reads_peekToken_gap gap rfl more).bind (Reads.pure _ _)
  exact goesOn.bind h

theorem reads_members_comma {g₁ g₂ more : List Char} (gap₁ : IsGap g₁) (gap₂ : IsGap g₂)
    (h : Reads (membersFrom item known fuel) ('"' :: more) as rest) :
    Reads (members item false known (fuel + 1)) (g₁ ++ ',' :: (g₂ ++ '"' :: more)) as rest := by
  have goesOn : Reads (hasMember false) (g₁ ++ ',' :: (g₂ ++ '"' :: more)) true ('"' :: more) :=
    (reads_peekToken_gap gap₁ rfl _).bind
      ((reads_skip ',' _).bind ((reads_peekToken_gap gap₂ rfl more).bind (Reads.pure _ _)))
  exact goesOn.bind h

end

theorem exists_cons_of_tells_items {vs : List Value} (h : Tells depth (.items vs) cs) :
    ∃ c more, cs = c :: more ∧ isSeparator c = false ∧ c ≠ ']' := by
  cases h with
  | lastItem item | item item =>
    obtain ⟨c, more, rfl, first⟩ := exists_cons_of_tells item
    exact ⟨c, _, rfl, first⟩

theorem exists_quote_of_tells_members {ms : List (String × Value)} (h : Tells depth (.members ms) cs) :
    ∃ more, cs = '"' :: more := by
  cases h with
  | lastMember member | members member =>
    cases member with
    | member spelled =>
      obtain ⟨more, rfl⟩ := spelled.exists_quote
      exact ⟨_, rfl⟩

/-- **What a text tells is read from it.** -/
theorem reads_of_tells {sense : Sense} (h : Tells depth sense cs) : Readable depth sense cs := by
  -- on the derivation: values first, then items behind a bracket, then members behind a brace
  induction h with
  | null =>
    intro g rest gap _
    unfold value
    exact (reads_peekToken_gap gap rfl _).bind (reads_word 'n' ['u', 'l', 'l'] _ rest)
  | true =>
    intro g rest gap _
    unfold value
    exact (reads_peekToken_gap gap rfl _).bind (reads_word 't' ['r', 'u', 'e'] _ rest)
  | false =>
    intro g rest gap _
    unfold value
    exact (reads_peekToken_gap gap rfl _).bind (reads_word 'f' ['a', 'l', 's', 'e'] _ rest)
  | number wellFormed counts =>
    intro g rest gap ends
    have all := reads_number wellFormed ends counts
    obtain ⟨d, more, chars, digit⟩ := wellFormed.exists_digit
    rw [chars] at all ⊢
    exact reads_number_value gap digit all
  | negative wellFormed counts =>
    intro g rest gap ends
    unfold value
    exact (reads_peekToken_gap gap rfl _).bind ((reads_skip '-' _).bind
      ((reads_number wellFormed ends counts).bind (Reads.pure _ rest)))
  | string spelled =>
    intro g rest gap _
    obtain ⟨body, rfl, spelled⟩ := spelled
    have all := reads_string_of_spellsChars spelled rest
    rw [List.cons_append, List.append_assoc, List.singleton_append]
    unfold value
    exact (reads_peekToken_gap gap rfl _).bind ((reads_skip '"' _).bind
      (all.bind (Reads.pure _ rest)))
  | emptyList gap' =>
    intro g rest gap _
    rw [List.cons_append, List.append_assoc, List.singleton_append]
    exact reads_list gap (reads_items_end true gap' rest)
  | list gap' items ih =>
    intro g rest gap _
    rw [List.cons_append, List.append_assoc, List.append_assoc, List.singleton_append]
    obtain ⟨c, more, rfl, open'⟩ := exists_cons_of_tells_items items
    refine reads_list gap (reads_items_first gap' ⟨c, _, rfl, open'⟩ (ih ?_))
    simp only [List.length_append]
    omega
  | emptyObject gap' =>
    intro g rest gap _
    rw [List.cons_append, List.append_assoc, List.singleton_append]
    exact reads_object gap (reads_members_end _ gap' rest)
  | object gap' members ih =>
    intro g rest gap _
    rw [List.cons_append, List.append_assoc, List.append_assoc, List.singleton_append]
    obtain ⟨more, rfl⟩ := exists_quote_of_tells_members members
    refine reads_object gap (reads_members_first gap' (ih ?_))
    simp only [List.length_append]
    omega
  -- the fuel of the loop is the length of the text, which leaves one for each item
  | @lastItem depth v cs g item gap ih =>
    intro rest fuel enough
    obtain ⟨fuel, rfl⟩ : ∃ n, fuel = n + 1 := by
      obtain ⟨c, more, rfl, -⟩ := exists_cons_of_tells item
      exact ⟨fuel - 1, by simp at enough; omega⟩
    rw [List.append_assoc]
    refine (ih isGap_nil (endsNumber_gap gap (.inr (.inl rfl)))).bind ?_
    exact (reads_items_end Bool.false gap rest).bind (Reads.pure [v] rest)
  | @item depth v vs cs g₁ g₂ more item gap₁ gap₂ others ihItem ihOthers =>
    intro rest fuel enough
    simp only [List.length_append, List.length_cons] at enough
    obtain ⟨fuel, rfl⟩ : ∃ n, fuel = n + 1 := ⟨fuel - 1, by omega⟩
    have behind : Reads (itemsFrom (value depth) fuel) (more ++ ']' :: rest) vs rest :=
      ihOthers (by omega)
    rw [List.append_assoc, List.append_assoc, List.cons_append, List.append_assoc]
    refine (ihItem isGap_nil (endsNumber_gap gap₁ (.inl rfl))).bind ?_
    obtain ⟨c, rest', rfl, open'⟩ := exists_cons_of_tells_items others
    exact (reads_items_comma gap₁ gap₂ ⟨c, _, rfl, open'⟩ behind).bind (Reads.pure _ rest)
  | @member depth name v n g₁ g₂ cs spelled gap₁ gap₂ item ih =>
    intro rest known fuel result end' ends behind
    obtain ⟨body, rfl, spelled⟩ := spelled
    have all := reads_string_of_spellsChars spelled (g₁ ++ ':' :: (g₂ ++ (cs ++ rest)))
    have chars : '"' :: (body ++ ['"']) ++ (g₁ ++ ':' :: (g₂ ++ cs)) ++ rest =
        '"' :: (body ++ '"' :: (g₁ ++ ':' :: (g₂ ++ (cs ++ rest)))) := by simp
    rw [chars]
    exact (reads_skip '"' _).bind (all.bind ((reads_colon gap₁ _).bind ((ih gap₂ ends).bind behind)))
  | @lastMember depth name v cs g member gap ih =>
    intro rest known fuel enough
    obtain ⟨fuel, rfl⟩ : ∃ n, fuel = n + 1 := by
      obtain ⟨more, same⟩ := exists_quote_of_tells_members (Tells.lastMember member gap)
      rw [same] at enough
      exact ⟨fuel - 1, by simp at enough; omega⟩
    rw [List.append_assoc]
    exact ih (endsNumber_gap gap (.inr (.inr rfl))) (reads_members_end g gap rest)
  | @members depth name v ms cs g₁ g₂ more member gap₁ gap₂ others ihMember ihOthers =>
    intro rest known fuel enough
    simp only [List.length_append, List.length_cons] at enough
    obtain ⟨fuel, rfl⟩ : ∃ n, fuel = n + 1 := ⟨fuel - 1, by omega⟩
    have behind : Reads (membersFrom (value depth) (Members.insert name v known) fuel)
        (more ++ '\x7d' :: rest) _ rest := ihOthers (by omega)
    rw [List.append_assoc, List.append_assoc, List.cons_append, List.append_assoc]
    refine ihMember (endsNumber_gap gap₁ (.inl rfl)) ?_
    obtain ⟨rest', rfl⟩ := exists_quote_of_tells_members others
    exact reads_members_comma gap₁ gap₂ behind

/-! ## What has been read -/

variable {c c' : Cursor} {first : Bool}

/-- What stands in front of a part: separators, and a comma among them if it is not the first. -/
def Separated (first : Bool) (g : List Char) : Prop :=
  if first then IsGap g else ∃ g₁ g₂, IsGap g₁ ∧ IsGap g₂ ∧ g = g₁ ++ ',' :: g₂

theorem Separated.append {g g' : List Char} (h : Separated first g) (gap : IsGap g') :
    Separated first (g ++ g') := by
  have both {g : List Char} (gap₁ : IsGap g) : IsGap (g ++ g') := by
    intro ch within
    rcases List.mem_append.mp within with within | within
    · exact gap₁ ch within
    · exact gap ch within
  cases first with
  | true => exact both h
  | false =>
    obtain ⟨g₁, g₂, gap₁, gap₂, rfl⟩ := h
    exact ⟨g₁, g₂ ++ g', gap₁, both gap₂, by simp⟩

theorem hasItem_eq_ok {more : Bool} (h : hasItem first c = .ok (more, c')) :
    more = false ∧ (∃ g, IsGap g ∧ c.rest = g ++ c'.rest) ∧ c'.rest.head? = some ']' ∨
      more = true ∧ ∃ g, Separated first g ∧ c.rest = g ++ c'.rest := by
  obtain ⟨token, c₁, looked, h⟩ := bind_eq_ok h
  obtain ⟨next, g, gap, rest⟩ := peekToken_eq_ok looked
  split at h
  · cases h
  · cases h
    exact .inl ⟨rfl, ⟨g, gap, rest⟩, next.symm⟩
  · split at h
    -- the first item has no comma in front; every other one has, and no bracket behind the comma
    · next isFirst =>
      cases h
      refine .inr ⟨rfl, g, ?_, rest⟩
      rw [Separated, if_pos isFirst]
      exact gap
    · next notFirst =>
      split at h
      · next comma =>
        obtain ⟨⟨⟩, c₂, skipped, h⟩ := bind_eq_ok h
        obtain ⟨token', c₃, looked', h⟩ := bind_eq_ok h
        obtain ⟨-, g', gap', rest'⟩ := peekToken_eq_ok looked'
        split at h
        · cases h
        · cases h
        · cases h
          refine .inr ⟨rfl, g ++ ',' :: g', ?_, ?_⟩
          · rw [Separated, if_neg notFirst]
            exact ⟨g, g', gap, gap', rfl⟩
          · rw [rest, skip_eq_ok skipped next.symm, comma, rest', List.append_assoc, List.cons_append]
      · cases h

theorem hasMember_eq_ok {more : Bool} (h : hasMember first c = .ok (more, c')) :
    more = false ∧ (∃ g, IsGap g ∧ c.rest = g ++ c'.rest) ∧ c'.rest.head? = some '\x7d' ∨
      more = true ∧ (∃ g, Separated first g ∧ c.rest = g ++ c'.rest) ∧ c'.rest.head? = some '"' := by
  obtain ⟨token, c₁, looked, h⟩ := bind_eq_ok h
  obtain ⟨next, g, gap, rest⟩ := peekToken_eq_ok looked
  split at h
  · cases h
  · cases h
    exact .inl ⟨rfl, ⟨g, gap, rest⟩, next.symm⟩
  · split at h
    -- as for items, and each member starts with the quote of its name
    · next isFirst =>
      split at h
      · next quote =>
        cases h
        refine .inr ⟨rfl, ⟨g, ?_, rest⟩, by rw [← next, quote]⟩
        rw [Separated, if_pos isFirst]
        exact gap
      · cases h
    · next notFirst =>
      split at h
      · next comma =>
        obtain ⟨⟨⟩, c₂, skipped, h⟩ := bind_eq_ok h
        obtain ⟨token', c₃, looked', h⟩ := bind_eq_ok h
        obtain ⟨next', g', gap', rest'⟩ := peekToken_eq_ok looked'
        split at h
        · cases h
        · cases h
          refine .inr ⟨rfl, ⟨g ++ ',' :: g', ?_, ?_⟩, next'.symm⟩
          · rw [Separated, if_neg notFirst]
            exact ⟨g, g', gap, gap', rfl⟩
          · rw [rest, skip_eq_ok skipped next.symm, comma, rest', List.append_assoc, List.cons_append]
        · cases h
        · cases h
      · cases h

theorem colon_eq_ok {u : Unit} (h : colon c = .ok (u, c')) :
    ∃ g, IsGap g ∧ c.rest = g ++ ':' :: c'.rest := by
  obtain ⟨token, c₁, looked, h⟩ := bind_eq_ok h
  obtain ⟨next, g, gap, rest⟩ := peekToken_eq_ok looked
  split at h
  · cases h
  · exact ⟨g, gap, by rw [rest, skip_eq_ok h next.symm]⟩
  · cases h

/-- A reader reads what tells its values. -/
def Sound {α : Type} (depth : Nat) (told : α → Value) (item : Reader α) : Prop :=
  ∀ {c a c'}, item c = .ok (a, c') →
    ∃ g cs, IsGap g ∧ Tells depth (.value (told a)) cs ∧ c.rest = g ++ (cs ++ c'.rest)

theorem Sound.items (sound : Sound depth id (value depth)) {fuel : Nat} {vs : List Value}
    (h : items (value depth) first fuel c = .ok (vs, c')) :
    vs = [] ∧ (∃ g, IsGap g ∧ c.rest = g ++ ']' :: c'.rest) ∨
      ∃ g cs, Separated first g ∧ Tells depth (.items vs) cs ∧ c.rest = g ++ (cs ++ ']' :: c'.rest) := by
  -- induction on the turns of the reader; each takes one item, or the bracket
  induction fuel generalizing first vs c with
  | zero => cases h
  | succ fuel ih =>
    obtain ⟨more, c₁, asked, h⟩ := bind_eq_ok h
    rcases hasItem_eq_ok asked with ⟨rfl, ⟨g, gap, rest⟩, closing⟩ | ⟨rfl, g, separated, rest⟩
    · obtain ⟨⟨⟩, c₂, skipped, h⟩ := bind_eq_ok h
      cases h
      exact .inl ⟨rfl, g, gap, by rw [rest, skip_eq_ok skipped closing]⟩
    · obtain ⟨v, c₂, read, h⟩ := bind_eq_ok h
      obtain ⟨others, c₃, read', h⟩ := bind_eq_ok h
      cases h
      obtain ⟨g', cs, gap', tells, rest'⟩ := sound read
      refine .inr ⟨g ++ g', ?_⟩
      rcases ih read' with ⟨rfl, g'', gap'', rest''⟩ | ⟨g'', cs', separated'', tells', rest''⟩
      · refine ⟨cs ++ g'', separated.append gap', .lastItem tells gap'', ?_⟩
        rw [rest, rest', rest'']
        simp
      · obtain ⟨g₁, g₂, gap₁, gap₂, rfl⟩ := separated''
        refine ⟨cs ++ (g₁ ++ ',' :: (g₂ ++ cs')), separated.append gap', .item tells gap₁ gap₂ tells', ?_⟩
        rw [rest, rest', rest'']
        simp

theorem Sound.members {α : Type} {told : α → Value} {item : Reader α} (sound : Sound depth told item)
    {fuel : Nat} {known result : List (String × α)}
    (h : members item first known fuel c = .ok (result, c')) :
    result = known ∧ (∃ g, IsGap g ∧ c.rest = g ++ '\x7d' :: c'.rest) ∨
      ∃ (g cs : List Char) (ms : List (String × α)), Separated first g ∧
        Tells depth (.members (ms.map fun m => (m.1, told m.2))) cs ∧
        result = ms.foldl (fun known m => Members.insert m.1 m.2 known) known ∧
        c.rest = g ++ (cs ++ '\x7d' :: c'.rest) := by
  -- induction on the turns of the reader; each takes one member, or the brace
  induction fuel generalizing first known c with
  | zero => cases h
  | succ fuel ih =>
    obtain ⟨more, c₁, asked, h⟩ := bind_eq_ok h
    rcases hasMember_eq_ok asked with ⟨rfl, ⟨g, gap, rest⟩, closing⟩ | ⟨rfl, ⟨g, separated, rest⟩, quote⟩
    · obtain ⟨⟨⟩, c₂, skipped, h⟩ := bind_eq_ok h
      cases h
      exact .inl ⟨rfl, g, gap, by rw [rest, skip_eq_ok skipped closing]⟩
    · obtain ⟨⟨⟩, c₂, skipped, h⟩ := bind_eq_ok h
      obtain ⟨name, c₃, named, h⟩ := bind_eq_ok h
      obtain ⟨⟨⟩, c₄, coloned, h⟩ := bind_eq_ok h
      obtain ⟨v, c₅, read, h⟩ := bind_eq_ok h
      obtain ⟨body, spelled, rest₂⟩ := spells_of_string named
      obtain ⟨g₁, gap₁, rest₃⟩ := colon_eq_ok coloned
      obtain ⟨g₂, cs, gap₂, tells, rest₄⟩ := sound read
      have member : Tells depth (.member name (told v)) ('"' :: (body ++ ['"']) ++ (g₁ ++ ':' :: (g₂ ++ cs))) :=
        .member ⟨body, rfl, spelled⟩ gap₁ gap₂ tells
      have start : c.rest = g ++ ('"' :: (body ++ ['"']) ++ (g₁ ++ ':' :: (g₂ ++ cs)) ++ c₅.rest) := by
        rw [rest, skip_eq_ok skipped quote, rest₂, rest₃, rest₄]
        simp
      refine .inr ⟨g, ?_⟩
      rcases ih h with ⟨rfl, g₃, gap₃, rest₅⟩ | ⟨g₃, cs', ms, separated', tells', rfl, rest₅⟩
      · refine ⟨_, [(name, v)], separated, .lastMember member gap₃, rfl, ?_⟩
        rw [start, rest₅]
        simp
      · obtain ⟨g₃, g₄, gap₃, gap₄, rfl⟩ := separated'
        refine ⟨_, (name, v) :: ms, separated, .members member gap₃ gap₄ tells', rfl, ?_⟩
        rw [start, rest₅]
        simp

/-! ### Each kind of value by its first character -/

variable {c₂ : Cursor} {fuel : Nat}

theorem word_eq_ok {d : Char} {word : List Char} {v w : Value} (next : c.rest.head? = some d)
    (h : (do skip; literal word; pure w : Reader Value) c = .ok (v, c')) :
    v = w ∧ c.rest = d :: (word ++ c'.rest) := by
  obtain ⟨⟨⟩, c₂, skipped, h⟩ := bind_eq_ok h
  obtain ⟨⟨⟩, c₃, read, h⟩ := bind_eq_ok h
  cases h
  exact ⟨rfl, by rw [skip_eq_ok skipped next, literal_eq_ok read]⟩

theorem Sound.list (sound : Sound depth id (value depth)) {vs : List Value}
    (next : c.rest.head? = some '[') (skipped : skip c = .ok ((), c₂))
    (h : Reader.items (value depth) true fuel c₂ = .ok (vs, c')) :
    ∃ cs, Tells (depth + 1) (.value (.array vs)) cs ∧ c.rest = cs ++ c'.rest := by
  rcases Sound.items sound h with ⟨rfl, g, gap, rest⟩ | ⟨g, cs, gap, tells, rest⟩
  · exact ⟨_, .emptyList gap, by rw [skip_eq_ok skipped next, rest]; simp⟩
  · exact ⟨_, .list gap tells, by rw [skip_eq_ok skipped next, rest]; simp⟩

theorem Sound.object {α : Type} {told : α → Value} {item : Reader α} (sound : Sound depth told item)
    {ms : List (String × α)} (next : c.rest.head? = some '\x7b') (skipped : skip c = .ok ((), c₂))
    (h : Reader.members item true [] fuel c₂ = .ok (ms, c')) :
    ∃ cs, Tells (depth + 1) (.value (.object (ms.map fun m => (m.1, told m.2)))) cs ∧
      c.rest = cs ++ c'.rest := by
  rcases Sound.members sound h with ⟨rfl, g, gap, rest⟩ | ⟨g, cs, ms, gap, tells, rfl, rest⟩
  · exact ⟨_, .emptyObject gap, by rw [skip_eq_ok skipped next, rest]; simp⟩
  · have object := Tells.object gap tells
    rw [Members.ofList, ← List.map_nil, Members.foldl_insert_map] at object
    exact ⟨_, object, by rw [skip_eq_ok skipped next, rest]; simp⟩

/-- One value, if lists and objects are read with one depth less. -/
theorem Sound.of_less (less : ∀ d, d + 1 = depth → Sound d id (value d)) :
    Sound depth id (value depth) := by
  intro c v c' h
  unfold value at h
  obtain ⟨token, c₁, looked, h⟩ := bind_eq_ok h
  obtain ⟨next, g, gap, rest⟩ := peekToken_eq_ok looked
  -- the text of the value behind the separators
  suffices text : ∃ cs, Tells depth (.value v) cs ∧ c₁.rest = cs ++ c'.rest by
    obtain ⟨cs, tells, rest'⟩ := text
    exact ⟨g, cs, gap, tells, by rw [rest, rest']⟩
  split at h
  · cases h
  · obtain ⟨rfl, text⟩ := word_eq_ok next.symm h
    exact ⟨_, .null, text⟩
  · obtain ⟨rfl, text⟩ := word_eq_ok next.symm h
    exact ⟨_, .true, text⟩
  · obtain ⟨rfl, text⟩ := word_eq_ok next.symm h
    exact ⟨_, .false, text⟩
  · obtain ⟨⟨⟩, c₂, skipped, h⟩ := bind_eq_ok h
    obtain ⟨n, c₃, read, h⟩ := bind_eq_ok h
    cases h
    obtain ⟨num, wellFormed, rest', counts⟩ := numeral_of_number read
    exact ⟨_, .negative wellFormed counts, by rw [skip_eq_ok skipped next.symm, rest']; rfl⟩
  · obtain ⟨⟨⟩, c₂, skipped, h⟩ := bind_eq_ok h
    obtain ⟨s, c₃, read, h⟩ := bind_eq_ok h
    cases h
    obtain ⟨body, spelled, rest'⟩ := spells_of_string read
    refine ⟨_, .string ⟨body, rfl, spelled⟩, ?_⟩
    rw [skip_eq_ok skipped next.symm, rest']
    simp
  · cases depth with
    | zero => cases h
    | succ depth =>
      obtain ⟨⟨⟩, c₂, skipped, h⟩ := bind_eq_ok h
      obtain ⟨left, c₃, counted, h⟩ := bind_eq_ok h
      cases counted
      obtain ⟨vs, c₄, read, h⟩ := bind_eq_ok h
      cases h
      exact Sound.list (less depth rfl) next.symm skipped read
  · cases depth with
    | zero => cases h
    | succ depth =>
      obtain ⟨⟨⟩, c₂, skipped, h⟩ := bind_eq_ok h
      obtain ⟨left, c₃, counted, h⟩ := bind_eq_ok h
      cases counted
      obtain ⟨ms, c₄, read, h⟩ := bind_eq_ok h
      cases h
      obtain ⟨cs, tells, rest'⟩ := Sound.object (less depth rfl) next.symm skipped read
      have same : (ms.map fun m => (m.1, id m.2)) = ms := List.map_id'' (fun m => rfl) ms
      rw [same] at tells
      exact ⟨cs, tells, rest'⟩
  · split at h
    · obtain ⟨n, c₂, read, h⟩ := bind_eq_ok h
      cases h
      obtain ⟨num, wellFormed, rest', counts⟩ := numeral_of_number read
      exact ⟨_, .number wellFormed counts, rest'⟩
    · cases h

/-- **What has been read stands in a text that tells it**, whatever the depth. -/
theorem tells_of_value : Sound depth id (value depth) := by
  -- induction on the depth that is left
  induction depth with
  | zero => exact Sound.of_less fun d same => absurd same (Nat.succ_ne_zero d)
  | succ depth ih =>
    refine Sound.of_less fun d same => ?_
    obtain rfl := Nat.succ.inj same
    exact ih

theorem readAll_eq_ok {α : Type} {r : Reader α} {text : String} {a : α} (h : r.readAll text = .ok a) :
    ∃ c, r (Cursor.ofString text) = .ok (a, c) ∧ IsGap c.rest := by
  unfold readAll at h
  split at h
  · next b c' read =>
    cases h
    obtain ⟨b, c₁, read, h⟩ := bind_eq_ok read
    obtain ⟨⟨⟩, c₂, finished, h⟩ := bind_eq_ok h
    cases h
    refine ⟨c₁, read, ?_⟩
    obtain ⟨token, c₃, looked, finished⟩ := bind_eq_ok finished
    obtain ⟨next, g, gap, rest⟩ := peekToken_eq_ok looked
    split at finished
    · -- nothing is left behind the separators
      rw [rest, List.head?_eq_none_iff.mp next.symm, List.append_nil]
      exact gap
    · cases finished
  · cases h

end Reader

theorem endsNumber_of_isGap {g : List Char} (gap : IsGap g) : Reader.EndsNumber g := by
  intro c first
  have sep := gap c (List.mem_of_head? first)
  simp only [Reader.isSeparator, Bool.or_eq_true, beq_iff_eq] at sep
  rcases sep with ((rfl | rfl) | rfl) | rfl <;> decide

/-- **Which texts are documents, and of which value.** -/
theorem parse_eq_ok_iff {text : String} : parse text = .ok v ↔ IsDocument text.toList v := by
  constructor
  · intro h
    obtain ⟨c, read, gap⟩ := Reader.readAll_eq_ok h
    obtain ⟨g, cs, gap', tells, rest⟩ := Reader.tells_of_value read
    exact ⟨g, cs, c.rest, gap', gap, tells, rest⟩
  · rintro ⟨g₁, cs, g₂, gap₁, gap₂, tells, text'⟩
    have read := Reader.reads_of_tells tells gap₁ (endsNumber_of_isGap gap₂)
    rw [← text'] at read
    exact Reader.readAll_of_reads read gap₂

/-! ## Objects of strings -/

/-- A string is told by its spelling. -/
theorem Reader.sound_typedString (depth : Nat) (expected : String) :
    Sound depth .string (typedString expected) := by
  intro c s c' h
  obtain ⟨token, c₁, looked, h⟩ := bind_eq_ok h
  obtain ⟨next, g, gap, rest⟩ := peekToken_eq_ok looked
  split at h
  · cases h
  · obtain ⟨⟨⟩, c₂, skipped, h⟩ := bind_eq_ok h
    obtain ⟨body, spelled, rest'⟩ := spells_of_string h
    refine ⟨g, _, gap, .string ⟨body, rfl, spelled⟩, ?_⟩
    rw [rest, skip_eq_ok skipped next.symm, rest']
    simp
  · exact absurd h mismatch_ne_ok

/-- **Only a document of an object of strings is read as one.** -/
theorem isDocument_of_readAll_stringMembers {text : String} {ms : List (String × String)}
    (h : Reader.stringMembers.readAll text = .ok ms) :
    IsDocument text.toList (.object (ms.map fun m => (m.1, .string m.2))) := by
  obtain ⟨c, read, gap⟩ := Reader.readAll_eq_ok h
  obtain ⟨token, c₁, looked, read⟩ := Reader.bind_eq_ok read
  obtain ⟨next, g, gap', rest⟩ := Reader.peekToken_eq_ok looked
  split at read
  · cases read
  · obtain ⟨⟨⟩, c₂, skipped, read⟩ := Reader.bind_eq_ok read
    obtain ⟨left, c₃, counted, read⟩ := Reader.bind_eq_ok read
    cases counted
    obtain ⟨cs, tells, rest'⟩ :=
      Reader.Sound.object (Reader.sound_typedString 126 "a string") next.symm skipped read
    refine ⟨g, cs, c.rest, gap', gap, tells, ?_⟩
    rw [← rest', ← rest]
    rfl
  · exact absurd read Reader.mismatch_ne_ok

end AdminPanel.Json
