import Mathlib.Data.List.Basic
import AdminPanel.Proofs.Json.Documents

/-!
# Reading back what is printed: values

A value that has been read is printed as a document of the same value, at any level of indentation, unless
it holds a number that had to be rounded: such a number is printed by its own rules. Nothing is known
about the text that it has been read from but that there is one: its depth, the order of its members and
the range of its numbers are those of the format.

* **`Exact`** — the values that hold no number of floating point.
* **`tells_printed`** — induction on the text from which a value has been read: every value in it that is
  exact is told by its print.
* **`parse_print`** — what is printed of an exact value is read as the value.
-/

namespace AdminPanel.Json

/-- A value in which every number is a whole one that is kept exactly. -/
inductive Exact : Value → Prop where
  | null : Exact .null
  | bool (b : Bool) : Exact (.bool b)
  | integer (i : Int) : Exact (.number (.integer i))
  | string (s : String) : Exact (.string s)
  | array {items : List Value} (all : ∀ v ∈ items, Exact v) : Exact (.array items)
  | object {members : List (String × Value)} (all : ∀ m ∈ members, Exact m.2) : Exact (.object members)

variable {depth level : Nat} {v : Value} {cs : List Char}

/-! ## Whole numbers -/

theorem takeDigits_lt {ds : List Char} {s : Nat} (h : s < significandLimit) :
    (Reader.takeDigits s ds).1 < significandLimit := by
  induction ds generalizing s with
  | nil => exact h
  | cons d ds ih =>
    rw [Reader.takeDigits]
    split
    · next inside => exact ih inside
    · exact h

/-- Only a numeral without point and exponent can count as a whole number, and its size is limited. -/
theorem Numeral.integer_of_value? {num : Numeral} {positive : Bool} {i : Int}
    (h : num.value? positive = some (.integer i)) :
    if positive then 0 ≤ i ∧ i < significandLimit else -0x8000000000000000 ≤ i ∧ i < 0 := by
  have noReal {s : Nat} {start : Int} : real? positive s start ≠ some (.integer i) := by
    intro same
    obtain ⟨x, -, other⟩ := Option.map_eq_some_iff.mp same
    cases other
  simp only [Numeral.value?] at h
  split at h
  · have limit : (Reader.takeDigits 0 num.whole).1 < significandLimit := takeDigits_lt (by decide)
    generalize (Reader.takeDigits 0 num.whole).1 = s at h limit
    unfold Number.whole at h
    cases positive with
    | true =>
      cases h
      exact ⟨Int.natCast_nonneg s, Int.ofNat_lt.mpr limit⟩
    | false =>
      simp only [Bool.false_eq_true, ↓reduceIte] at h ⊢
      split at h
      · cases h
      · cases h
        omega
  -- a fraction or an exponent makes a real of it
  · exfalso
    unfold scaled? at h
    split at h
    · exact noReal h
    · split at h
      · exact noReal h
      · split at h <;> cases h

theorem isWhole_toDigits (n : Nat) : IsWhole (Nat.toDigits 10 n) := by
  rcases Nat.eq_zero_or_pos n with rfl | pos
  · exact .inl rfl
  · refine .inr ⟨⟨Nat.toDigits_ne_nil, fun d within => Nat.isDigit_of_mem_toDigits (by decide)
      (by decide) within⟩, ?_⟩
    -- induction on the digits from the last one
    induction n using Nat.strongRecOn with
    | ind n ih =>
      rcases Nat.lt_or_ge n 10 with small | large
      · rw [Nat.toDigits_of_lt_base small]
        have digit : ∀ d < 10, 0 < d → [Nat.digitChar d].head? ≠ some '0' := by decide
        exact digit n small pos
      · rw [Nat.toDigits_of_base_le (by decide) large, List.head?_append_of_ne_nil _ Nat.toDigits_ne_nil]
        exact ih (n / 10) (by omega) (by omega)

/-- The digits of a number count as the number. -/
theorem value?_toDigits {n : Nat} (positive : Bool) (h : n < significandLimit) :
    Numeral.value? positive ⟨Nat.toDigits 10 n, [], none⟩ = some (.whole positive n) := by
  have size : Nat.ofDigitChars 10 (Nat.toDigits 10 n) 0 = n := Nat.ofDigitChars_ten_toDigits
  have taken : Reader.takeDigits 0 (Nat.toDigits 10 n) = (n, (Nat.toDigits 10 n).length, []) := by
    rw [takeDigits_of_lt (by rw [size]; exact h), size]
  simp [Numeral.value?, taken]

theorem wellFormed_toDigits (n : Nat) : Numeral.WellFormed ⟨Nat.toDigits 10 n, [], none⟩ :=
  ⟨isWhole_toDigits n, nofun, nofun⟩

/-- A whole number in range is told by its print. -/
theorem tells_integer {i : Int} (low : -0x8000000000000000 ≤ i) (high : i < significandLimit) :
    Tells depth (.value (.number (.integer i))) (toString i).toList := by
  have chars (n : Nat) : Numeral.chars ⟨Nat.toDigits 10 n, [], none⟩ = (toString n).toList := by
    rw [Nat.toString_eq_ofList_toDigits, String.toList_ofList]
    exact List.append_nil _
  -- a negative number is its sign and the digits of one more than `n`
  cases i with
  | ofNat n =>
    have limit : n < significandLimit := Int.ofNat_lt.mp high
    have counts := value?_toDigits true limit
    show Tells depth _ (toString n).toList
    rw [← chars]
    exact .number (wellFormed_toDigits n) counts
  | negSucc n =>
    have limit : n + 1 ≤ 0x8000000000000000 := by omega
    have counts := value?_toDigits false (n := n + 1) (by simp only [significandLimit]; omega)
    have whole : Number.whole false (n + 1) = .integer (Int.negSucc n) := by
      rw [Number.whole, if_neg (by decide), if_neg (by omega)]
      rfl
    rw [whole] at counts
    have minus : (toString (Int.negSucc n)).toList = '-' :: (toString (n + 1)).toList := by
      show ("-" ++ toString (n + 1)).toList = _
      rw [String.toList_append]
      rfl
    rw [minus, ← chars]
    exact .negative (wellFormed_toDigits (n + 1)) counts

/-! ## Parts between brackets -/

theorem isGap_lineBreak (level : Nat) : IsGap (lineBreak level) := by
  intro c within
  exact Reader.isSeparator_of_mem_lineBreak within

/-- The parts between two brackets, each on a line of its own, in a grammar where separators stand behind
the tokens and commas between the parts. -/
theorem printed_parts {α : Type} {P : List α → List Char → Prop} {Q : α → Prop} {text : α → List Char}
    (last : ∀ {a g}, Q a → IsGap g → P [a] (text a ++ g))
    (next : ∀ {a as g₁ g₂ more}, Q a → IsGap g₁ → IsGap g₂ → P as more →
      P (a :: as) (text a ++ (g₁ ++ ',' :: (g₂ ++ more))))
    (level : Nat) (a : α) (as : List α) (all : ∀ b ∈ a :: as, Q b) :
    P (a :: as) (text a ++ (as.flatMap (fun b => ',' :: (lineBreak (level + 1) ++ text b)) ++
      lineBreak level)) := by
  -- induction on the parts behind the first one
  induction as generalizing a with
  | nil => exact last (all a List.mem_cons_self) (isGap_lineBreak level)
  | cons b as ih =>
    have behind := ih b fun c within => all c (List.mem_cons_of_mem a within)
    have here := next (all a List.mem_cons_self) isGap_nil (isGap_lineBreak (level + 1)) behind
    simpa using here

theorem printItems_eq (level : Nat) (vs : List Value) :
    printItems level vs = vs.map (Value.printChars level) := by
  induction vs with
  | nil => rw [printItems, List.map_nil]
  | cons v vs ih => rw [printItems, ih, List.map_cons]

theorem printMembers_eq (level : Nat) (ms : List (String × Value)) :
    printMembers level ms = ms.map fun m => Reader.memberText m.1 (m.2.printChars level) := by
  induction ms with
  | nil => rw [printMembers, List.map_nil]
  | cons m ms ih =>
    rw [printMembers, ih, List.map_cons]
    rfl

/-- A list is told by its print if its items are. -/
theorem tells_array {vs : List Value}
    (all : ∀ v ∈ vs, ∀ level, Tells depth (.value v) (v.printChars level)) :
    Tells (depth + 1) (.value (.array vs)) ((Value.array vs).printChars level) := by
  rw [Value.printChars, printItems_eq]
  cases vs with
  | nil => exact .emptyList isGap_nil
  | cons v vs =>
    have items := printed_parts (P := fun vs cs => Tells depth (.items vs) cs)
      (Q := fun v => ∀ level, Tells depth (.value v) (v.printChars level))
      (fun item gap => .lastItem (item _) gap)
      (fun item gap₁ gap₂ others => .item (item (level + 1)) gap₁ gap₂ others) level v vs all
    have whole := Tells.list (isGap_lineBreak (level + 1)) items
    simpa [bracketed, List.flatMap_map] using whole

/-! ## Members in order -/

theorem Members.sorted_ofList {α : Type} (ms : List (String × α)) : Sorted (ofList ms) := by
  have onto (known : List (String × α)) (sorted : Sorted known) :
      Sorted (ms.foldl (fun known m => insert m.1 m.2 known) known) := by
    induction ms generalizing known with
    | nil => exact sorted
    | cons m ms ih => exact ih _ (sorted_insert m.1 m.2 sorted)
  exact onto [] List.Pairwise.nil

theorem Members.mem_of_mem_ofList {α : Type} {ms : List (String × α)} {m : String × α}
    (h : m ∈ ofList ms) : m ∈ ms := by
  have onto (known : List (String × α)) :
      m ∈ ms.foldl (fun known m => insert m.1 m.2 known) known → m ∈ known ∨ m ∈ ms := by
    clear h
    induction ms generalizing known with
    | nil => exact .inl
    | cons k ms ih =>
      intro h
      rcases ih _ h with within | within
      · rcases mem_insert within with rfl | within
        · exact .inr List.mem_cons_self
        · exact .inl within
      · exact .inr (List.mem_cons_of_mem k within)
  rcases onto [] h with none' | within
  · cases none'
  · exact within

/-- An object in order is told by its print if the values of its members are. -/
theorem tells_object {ms : List (String × Value)} (sorted : Members.Sorted ms)
    (all : ∀ m ∈ ms, ∀ level, Tells depth (.value m.2) (m.2.printChars level)) :
    Tells (depth + 1) (.value (.object ms)) ((Value.object ms).printChars level) := by
  have order : Members.ofList ms = ms := Members.foldl_insert sorted
  rw [Value.printChars, printMembers_eq]
  cases ms with
  | nil => exact .emptyObject isGap_nil
  | cons m ms =>
    have member {m : String × Value} (item : ∀ level, Tells depth (.value m.2) (m.2.printChars level)) :
        Tells depth (.member m.1 m.2) (Reader.memberText m.1 (m.2.printChars (level + 1))) := by
      have blank : IsGap [' '] := fun c within => by rw [List.mem_singleton.mp within]; rfl
      have told := Tells.member (spells_stringChars m.1) isGap_nil blank (item (level + 1))
      simpa [Reader.memberText] using told
    have members := printed_parts (P := fun ms cs => Tells depth (.members ms) cs)
      (Q := fun m => ∀ level, Tells depth (.value m.2) (m.2.printChars level))
      (fun item gap => .lastMember (member item) gap)
      (fun item gap₁ gap₂ others => .members (member item) gap₁ gap₂ others) level m ms all
    have whole := Tells.object (isGap_lineBreak (level + 1)) members
    rw [order] at whole
    simpa [bracketed, List.flatMap_map] using whole

/-! ## Values that have been read -/

/-- The values that a text tells. -/
def Sense.values : Sense → List Value
  | .value v => [v]
  | .items vs => vs
  | .member _ v => [v]
  | .members ms => ms.map (·.2)

/-- **What has been read is told by its print**, if no number in it had to be rounded. -/
theorem tells_printed {sense : Sense} (h : Tells depth sense cs) :
    ∀ v ∈ sense.values, Exact v → ∀ level, Tells depth (.value v) (v.printChars level) := by
  -- on the derivation, only to have its numbers: what is printed does not depend on how it was written
  induction h with
  | null =>
    intro v within _ level
    obtain rfl := List.mem_singleton.mp within
    exact .null
  | true =>
    intro v within _ level
    obtain rfl := List.mem_singleton.mp within
    exact .true
  | false =>
    intro v within _ level
    obtain rfl := List.mem_singleton.mp within
    exact .false
  | number wellFormed counts =>
    intro v within exact' level
    obtain rfl := List.mem_singleton.mp within
    cases exact' with
    | integer i =>
      obtain ⟨low, high⟩ := Numeral.integer_of_value? counts
      exact tells_integer (by omega) high
  | negative wellFormed counts =>
    intro v within exact' level
    obtain rfl := List.mem_singleton.mp within
    cases exact' with
    | integer i =>
      obtain ⟨low, high⟩ := Numeral.integer_of_value? counts
      exact tells_integer low (by simp only [significandLimit]; omega)
  | string spelled =>
    intro v within _ level
    obtain rfl := List.mem_singleton.mp within
    exact .string (spells_stringChars _)
  | emptyList gap =>
    intro v within _ level
    obtain rfl := List.mem_singleton.mp within
    exact tells_array nofun
  | list gap items ih =>
    intro v within exact' level
    obtain rfl := List.mem_singleton.mp within
    cases exact' with
    | array all => exact tells_array fun w inside => ih w inside (all w inside)
  | emptyObject gap =>
    intro v within _ level
    obtain rfl := List.mem_singleton.mp within
    exact tells_object List.Pairwise.nil nofun
  | object gap members ih =>
    intro v within exact' level
    obtain rfl := List.mem_singleton.mp within
    cases exact' with
    | object all =>
      refine tells_object (Members.sorted_ofList _) fun m inside => ?_
      exact ih m.2 (List.mem_map_of_mem (Members.mem_of_mem_ofList inside)) (all m inside)
  | lastItem item gap ih => exact ih
  | item item gap₁ gap₂ others ihItem ihOthers =>
    intro v within exact' level
    rcases List.mem_cons.mp within with rfl | within
    · exact ihItem v List.mem_cons_self exact' level
    · exact ihOthers v within exact' level
  | member spelled gap₁ gap₂ value ih => exact ih
  | lastMember member gap ih => exact ih
  | members member gap₁ gap₂ others ihMember ihOthers =>
    intro v within exact' level
    rcases List.mem_cons.mp within with rfl | within
    · exact ihMember _ List.mem_cons_self exact' level
    · exact ihOthers v within exact' level

/-- **What is printed of a value that has been read is read as the value**, whatever separators stand behind
it. -/
theorem parse_print {text : String} {gap : List Char} (h : parse text = .ok v) (exact' : Exact v)
    (isGap : IsGap gap) : parse (v.print ++ String.ofList gap) = .ok v := by
  obtain ⟨g₁, cs, g₂, -, -, tells, -⟩ := parse_eq_ok_iff.mp h
  have printed := tells_printed tells v List.mem_cons_self exact' 0
  refine parse_eq_ok_iff.mpr ⟨[], _, gap, isGap_nil, isGap, printed, ?_⟩
  rw [Value.print, String.toList_append, String.toList_ofList, String.toList_ofList, List.nil_append]

end AdminPanel.Json
