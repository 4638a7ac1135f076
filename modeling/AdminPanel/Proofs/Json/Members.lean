import AdminPanel.Proofs.Json.Reading
import AdminPanel.Text.Blank

/-!
# Members of an object, in order and read back

An object that is read has its members in ascending order of their names. On such lists inserting
and erasing keep the order, and writing the members down one after the other and inserting them
again gives the same list: this is why a document of strings is read back as what was printed.

## The architecture

* **`Members.Sorted`** — ascending names; kept by `insert` and `erase`, and produced by every
  reading (`sorted_of_members`).
* **`foldl_insert`** — inserting sorted members one by one rebuilds their list.
* **`reads_members`** — the printed members are read back and inserted, for any way of printing
  the values that is read back in front of a comma or a line break.
-/

namespace AdminPanel.Json

namespace Members

variable {α : Type}

/-! ## Order -/

/-- Names ascend, so that none stands twice. -/
def Sorted (ms : List (String × α)) : Prop := ms.Pairwise fun a b => a.1 < b.1

theorem mem_insert {m : String × α} {name : String} {value : α} {ms : List (String × α)}
    (h : m ∈ insert name value ms) : m = (name, value) ∨ m ∈ ms := by
  induction ms with
  | nil => simpa [insert] using h
  | cons held rest ih =>
    simp only [insert] at h
    split at h
    · rcases List.mem_cons.mp h with h | h
      · exact .inl h
      · exact .inr (List.mem_cons_of_mem _ h)
    · split at h
      · rcases List.mem_cons.mp h with h | h
        · exact .inl h
        · exact .inr h
      · rcases List.mem_cons.mp h with h | h
        · exact .inr (by simp [h])
        · exact (ih h).imp_right (List.mem_cons_of_mem _)

theorem sorted_insert (name : String) (value : α) {ms : List (String × α)} (h : Sorted ms) :
    Sorted (insert name value ms) := by
  induction ms with
  | nil => exact List.pairwise_singleton _ _
  | cons held rest ih =>
    obtain ⟨other, v⟩ := held
    obtain ⟨first, others⟩ := List.pairwise_cons.mp h
    -- the new name takes the place of its equal, stands in front, or goes on
    simp only [insert]
    split
    · next same =>
      subst same
      exact List.pairwise_cons.mpr ⟨first, others⟩
    · next different =>
      split
      · next before =>
        refine List.pairwise_cons.mpr ⟨?_, h⟩
        intro m hm
        rcases List.mem_cons.mp hm with rfl | hm
        · exact before
        · exact String.lt_trans before (first m hm)
      · next notBefore =>
        refine List.pairwise_cons.mpr ⟨?_, ih others⟩
        intro m hm
        rcases mem_insert hm with rfl | hm
        · have le : other ≤ name := String.not_lt.mp notBefore
          exact Std.lt_of_le_of_ne le (Ne.symm different)
        · exact first m hm

theorem sorted_erase (name : String) {ms : List (String × α)} (h : Sorted ms) :
    Sorted (erase name ms) :=
  h.filter _

/-! ## Looking up -/

@[simp] theorem find?_erase_self (name : String) (ms : List (String × α)) :
    find? name (erase name ms) = none := by
  induction ms with
  | nil => rfl
  | cons m rest ih =>
    obtain ⟨other, v⟩ := m
    unfold erase at ih ⊢
    rw [List.filter_cons]
    split
    · next keep =>
      have ne : ¬ name = other := by
        intro h
        simp [h] at keep
      rw [find?, if_neg ne]
      exact ih
    · exact ih

theorem find?_erase_of_ne {name other : String} (h : name ≠ other) (ms : List (String × α)) :
    find? name (erase other ms) = find? name ms := by
  induction ms with
  | nil => rfl
  | cons m rest ih =>
    obtain ⟨third, v⟩ := m
    unfold erase at ih ⊢
    rw [List.filter_cons]
    split
    · simp only [find?]
      rw [ih]
    · next drop =>
      have same : third = other := by simpa using drop
      subst same
      rw [ih, find?, if_neg h]

theorem erase_of_find?_eq_none {name : String} {ms : List (String × α)}
    (h : find? name ms = none) : erase name ms = ms := by
  unfold erase
  rw [List.filter_eq_self]
  induction ms with
  | nil => simp
  | cons m rest ih =>
    obtain ⟨other, v⟩ := m
    rw [find?] at h
    split at h
    · cases h
    · next ne =>
      intro m hm
      rcases List.mem_cons.mp hm with rfl | hm
      · simpa using Ne.symm ne
      · exact ih h m hm

/-! ## Inserting one by one -/

theorem insert_eq_append {name : String} (value : α) {ms : List (String × α)}
    (h : ∀ m ∈ ms, m.1 < name) : insert name value ms = ms ++ [(name, value)] := by
  induction ms with
  | nil => rfl
  | cons held rest ih =>
    obtain ⟨other, v⟩ := held
    have before : other < name := h (other, v) (by simp)
    have different : ¬ name = other := fun e => String.lt_irrefl other (e ▸ before)
    have notBefore : ¬ name < other := String.lt_asymm before
    simp only [insert, different, notBefore, ↓reduceIte, List.cons_append]
    rw [ih fun m hm => h m (List.mem_cons_of_mem _ hm)]

/-- Inserting sorted members one by one behind smaller ones appends them. -/
theorem foldl_insert_append (ms known : List (String × α)) (h : Sorted (known ++ ms)) :
    ms.foldl (fun acc m => insert m.1 m.2 acc) known = known ++ ms := by
  -- induction on the members to come; what is known so far is smaller than all of them
  induction ms generalizing known with
  | nil => simp
  | cons m rest ih =>
    have below : ∀ k ∈ known, k.1 < m.1 := fun k hk =>
      (List.pairwise_append.mp h).2.2 k hk m (by simp)
    rw [List.foldl_cons, insert_eq_append m.2 below, ih]
    · simp
    · simpa using h

/-- Inserting sorted members one by one rebuilds their list. -/
theorem foldl_insert {ms : List (String × α)} (h : Sorted ms) :
    ms.foldl (fun acc m => insert m.1 m.2 acc) [] = ms := by
  simpa using foldl_insert_append ms [] (by simpa using h)

end Members

namespace Reader

variable {α β : Type}

/-! ## What is read is sorted -/

theorem bind_eq_ok {r : Reader α} {f : α → Reader β} {c : Cursor} {x : β × Cursor}
    (h : (r >>= f) c = .ok x) : ∃ a c', r c = .ok (a, c') ∧ f a c' = .ok x := by
  change (r c >>= fun y => f y.1 y.2) = .ok x at h
  rcases hr : r c with e | ⟨a, c'⟩
  · rw [hr] at h
    cases h
  · rw [hr] at h
    exact ⟨a, c', rfl, h⟩

theorem mismatch_ne_ok {expected : String} {c : Cursor} {x : α × Cursor} :
    mismatch expected c ≠ .ok x := by
  intro h
  obtain ⟨token, c₁, -, h⟩ := bind_eq_ok h
  -- each case consumes what it must and then fails
  split at h
  · cases h
  · obtain ⟨-, c₂, -, h⟩ := bind_eq_ok h
    obtain ⟨-, c₃, -, h⟩ := bind_eq_ok h
    cases h
  · obtain ⟨-, c₂, -, h⟩ := bind_eq_ok h
    obtain ⟨-, c₃, -, h⟩ := bind_eq_ok h
    cases h
  · obtain ⟨-, c₂, -, h⟩ := bind_eq_ok h
    obtain ⟨-, c₃, -, h⟩ := bind_eq_ok h
    cases h
  · obtain ⟨-, c₂, -, h⟩ := bind_eq_ok h
    obtain ⟨n, c₃, -, h⟩ := bind_eq_ok h
    cases h
  · obtain ⟨-, c₂, -, h⟩ := bind_eq_ok h
    obtain ⟨s, c₃, -, h⟩ := bind_eq_ok h
    cases h
  · cases h
  · cases h
  · split at h
    · obtain ⟨n, c₂, -, h⟩ := bind_eq_ok h
      cases h
    · cases h

/-- Whatever document the members are read from, their names ascend. -/
theorem sorted_of_members {item : Reader α} {first : Bool} {known ms : List (String × α)}
    {fuel : Nat} {c c' : Cursor} (hknown : Members.Sorted known)
    (h : members item first known fuel c = .ok (ms, c')) : Members.Sorted ms := by
  -- induction on the turns of the reader
  induction fuel generalizing first known c with
  | zero => cases h
  | succ fuel ih =>
    rw [members] at h
    obtain ⟨more, c₁, -, h⟩ := bind_eq_ok h
    cases more with
    | false =>
      obtain ⟨-, c₂, -, h⟩ := bind_eq_ok h
      cases h
      exact hknown
    | true =>
      obtain ⟨-, c₂, -, h⟩ := bind_eq_ok h
      obtain ⟨name, c₃, -, h⟩ := bind_eq_ok h
      obtain ⟨-, c₄, -, h⟩ := bind_eq_ok h
      obtain ⟨a, c₅, -, h⟩ := bind_eq_ok h
      exact ih (Members.sorted_insert name a hknown) h

theorem rest_dropWhile (p : Char → Bool) (place : Position) (cs : List Char) :
    (dropWhile p place cs).rest = cs.dropWhile p := by
  induction cs generalizing place with
  | nil => rfl
  | cons c cs ih =>
    rw [dropWhile, List.dropWhile_cons]
    split
    · exact ih _
    · rfl

theorem mem_of_peekToken {c c' : Cursor} {token : Char} (h : peekToken c = .ok (some token, c')) :
    token ∈ c.rest := by
  have first : (c.rest.dropWhile isSeparator).head? = some token := by
    rw [← rest_dropWhile isSeparator c.position c.rest]
    unfold peekToken at h
    simp only [Except.ok.injEq, Prod.mk.injEq] at h
    exact h.1
  exact (List.dropWhile_sublist isSeparator).subset (List.mem_of_head? first)

/-- An object of strings that can be read opens with a brace, and its members follow. -/
theorem stringMembers_cases {c c' : Cursor} {ms : List (String × String)}
    (h : stringMembers c = .ok (ms, c')) :
    '\x7b' ∈ c.rest ∧
      ∃ fuel c₁, members (typedString "a string") true [] fuel c₁ = .ok (ms, c') := by
  obtain ⟨token, c₁, htoken, h⟩ := bind_eq_ok h
  split at h
  · cases h
  · obtain ⟨-, c₂, -, h⟩ := bind_eq_ok h
    obtain ⟨left, c₃, -, h⟩ := bind_eq_ok h
    exact ⟨mem_of_peekToken htoken, left + 1, c₃, h⟩
  · exact absurd h mismatch_ne_ok

theorem of_readAll {r : Reader α} {text : String} {a : α} (h : r.readAll text = .ok a) :
    ∃ c, r (Cursor.ofString text) = .ok (a, c) := by
  unfold readAll at h
  split at h
  · next b c' hr =>
    cases h
    obtain ⟨b, c₁, hb, hr⟩ := bind_eq_ok hr
    obtain ⟨-, c₂, -, hr⟩ := bind_eq_ok hr
    cases hr
    exact ⟨c₁, hb⟩
  · cases h

theorem sorted_of_readAll_stringMembers {text : String} {ms : List (String × String)}
    (h : stringMembers.readAll text = .ok ms) : Members.Sorted ms := by
  obtain ⟨c, hread⟩ := of_readAll h
  obtain ⟨-, fuel, c₁, hm⟩ := stringMembers_cases hread
  exact sorted_of_members List.Pairwise.nil hm

/-- The text of an object of strings is not blank: there is a brace in it. -/
theorem not_isAllBlank_of_readAll_stringMembers {text : String} {ms : List (String × String)}
    (h : stringMembers.readAll text = .ok ms) : Text.isAllBlank text = false := by
  obtain ⟨c, hread⟩ := of_readAll h
  have brace := (stringMembers_cases hread).1
  simp only [Text.isAllBlank, List.all_eq_false]
  exact ⟨_, brace, by decide⟩

/-! ## Reading printed members -/

/-- The text of a member, its value already printed. -/
def memberText (name : String) (text : List Char) : List Char :=
  stringChars name.toList ++ [':', ' '] ++ text

/-- A printed value that is read back behind a blank, if a comma or a line break follows it. -/
def ReadsBack (item : Reader α) (text : List Char) (a : α) : Prop :=
  ∀ rest, rest.head? = some ',' ∨ rest.head? = some '\n' →
    Reads item (' ' :: (text ++ rest)) a rest

theorem isSeparator_of_mem_lineBreak {level : Nat} {c : Char} (h : c ∈ lineBreak level) :
    isSeparator c := by
  rcases List.mem_cons.mp h with rfl | h
  · rfl
  · rw [(List.mem_replicate.mp h).2]
    rfl

theorem head?_memberText (name : String) (text cs : List Char) :
    (memberText name text ++ cs).head? = some '"' := rfl

theorem not_isSeparator_head?_memberText (name : String) (text cs : List Char) :
    ∀ c ∈ (memberText name text ++ cs).head?, isSeparator c = false := by
  rw [head?_memberText]
  intro c h
  cases h
  rfl

/-- The first member stands on a line of its own. -/
theorem reads_hasMember_first (level : Nat) (name : String) (text cs : List Char) :
    Reads (hasMember true) (lineBreak level ++ (memberText name text ++ cs)) true
      (memberText name text ++ cs) := by
  refine (reads_peekToken _ _ (fun c h => isSeparator_of_mem_lineBreak h)
    (not_isSeparator_head?_memberText name text cs)).bind ?_
  rw [head?_memberText]
  exact Reads.pure true _

/-- A comma and a line break stand in front of every further member. -/
theorem reads_hasMember_next (level : Nat) (name : String) (text cs : List Char) :
    Reads (hasMember false) (',' :: (lineBreak level ++ (memberText name text ++ cs))) true
      (memberText name text ++ cs) := by
  refine (reads_peekToken_cons (by decide) _).bind ?_
  refine (reads_skip ',' _).bind ?_
  refine (reads_peekToken _ _ (fun c h => isSeparator_of_mem_lineBreak h)
    (not_isSeparator_head?_memberText name text cs)).bind ?_
  rw [head?_memberText]
  exact Reads.pure true _

theorem reads_hasMember_end (first : Bool) {pre : List Char} (hpre : ∀ c ∈ pre, isSeparator c)
    (cs : List Char) :
    Reads (hasMember first) (pre ++ '\x7d' :: cs) false ('\x7d' :: cs) :=
  (reads_peekToken pre _ hpre (by simp [isSeparator])).bind (Reads.pure false _)

/-- Between brackets every part takes at least one character. -/
theorem length_le_bracketed (opening closing : Char) (level : Nat) (parts : List (List Char)) :
    parts.length + 1 ≤ (bracketed opening closing level parts).length := by
  cases parts with
  | nil => simp [bracketed]
  | cons part parts =>
    have behind : parts.length
        ≤ (parts.flatMap fun p => ',' :: lineBreak (level + 1) ++ p).length := by
      induction parts with
      | nil => simp
      | cons p parts ih =>
        simp only [List.flatMap_cons, List.length_append, List.length_cons]
        omega
    simp only [bracketed, List.length_append, List.length_cons]
    omega

/-- One member is read and inserted, and the reading goes on behind it. -/
theorem reads_members_cons {item : Reader α} {first : Bool} {front : List Char} {name : String}
    {text : List Char} {a : α} {known : List (String × α)} {fuel : Nat} {cs rest : List Char}
    {result : List (String × α)}
    (hmore : Reads (hasMember first) front true (memberText name text ++ cs))
    (hitem : Reads item (' ' :: (text ++ cs)) a cs)
    (h : Reads (members item false (Members.insert name a known) fuel) cs result rest) :
    Reads (members item first known (fuel + 1)) front result rest := by
  rw [members]
  refine hmore.bind ?_
  simp only [↓reduceIte]
  have chars : memberText name text ++ cs =
      '"' :: (name.toList.flatMap escapeChar ++ '"' :: ':' :: ' ' :: (text ++ cs)) := by
    simp [memberText, stringChars]
  rw [chars]
  refine (reads_skip '"' _).bind ?_
  refine (reads_string name _).bind ?_
  have hcolon : Reads colon (':' :: ' ' :: (text ++ cs)) () (' ' :: (text ++ cs)) :=
    (reads_peekToken_cons (by decide) _).bind (reads_skip ':' _)
  exact hcolon.bind (hitem.bind h)

theorem reads_members_end {item : Reader α} {first : Bool} {known : List (String × α)} {fuel : Nat}
    (pre : List Char) (hpre : ∀ c ∈ pre, isSeparator c) (rest : List Char) :
    Reads (members item first known (fuel + 1)) (pre ++ '\x7d' :: rest) known rest := by
  rw [members]
  refine (reads_hasMember_end first hpre rest).bind ?_
  simp only [Bool.false_eq_true, ↓reduceIte]
  exact (reads_skip _ rest).bind (Reads.pure known rest)

/-- A member in three parts: its name, the text of its value, and the value. -/
abbrev Printed (α : Type) := String × List Char × α

def Printed.insertAll (ms : List (Printed α)) (known : List (String × α)) : List (String × α) :=
  ms.foldl (fun acc m => Members.insert m.1 m.2.2 acc) known

/-- The text of the members behind the first one, with the closing brace and what follows it. -/
def tailText (level : Nat) (ms : List (Printed α)) (rest : List Char) : List Char :=
  ms.flatMap (fun m => ',' :: lineBreak (level + 1) ++ memberText m.1 m.2.1)
    ++ (lineBreak level ++ '\x7d' :: rest)

theorem head?_tailText (level : Nat) (ms : List (Printed α)) (rest : List Char) :
    (tailText level ms rest).head? = some ',' ∨ (tailText level ms rest).head? = some '\n' := by
  cases ms with
  | nil => exact .inr rfl
  | cons m ms => exact .inl rfl

/-- The members behind the first, up to the closing brace. -/
theorem reads_members_tail {item : Reader α} (level : Nat) (ms : List (Printed α))
    (known : List (String × α)) (rest : List Char) (fuel : Nat)
    (hms : ∀ m ∈ ms, ReadsBack item m.2.1 m.2.2) (enough : ms.length < fuel) :
    Reads (members item false known fuel) (tailText level ms rest)
      (Printed.insertAll ms known) rest := by
  -- induction on the members
  induction ms generalizing known fuel with
  | nil =>
    obtain ⟨fuel, rfl⟩ : ∃ n, fuel = n + 1 := ⟨fuel - 1, by simp at enough; omega⟩
    exact reads_members_end _ (fun c h => isSeparator_of_mem_lineBreak h) rest
  | cons m ms ih =>
    obtain ⟨fuel, rfl⟩ : ∃ n, fuel = n + 1 := ⟨fuel - 1, by simp at enough; omega⟩
    obtain ⟨name, text, a⟩ := m
    have behind := ih (Members.insert name a known) fuel
      (fun m hm => hms m (List.mem_cons_of_mem _ hm)) (by simp at enough; omega)
    have here := hms (name, text, a) (by simp) _ (head?_tailText level ms rest)
    have layout : tailText level ((name, text, a) :: ms) rest =
        ',' :: (lineBreak (level + 1) ++ (memberText name text ++ tailText level ms rest)) := by
      simp [tailText]
    rw [layout]
    exact reads_members_cons (reads_hasMember_next (level + 1) name text _) here behind

/-- The printed members of an object, behind its brace, are read back and inserted. -/
theorem reads_members {item : Reader α} (level : Nat) (ms : List (Printed α)) (rest : List Char)
    (fuel : Nat) (hms : ∀ m ∈ ms, ReadsBack item m.2.1 m.2.2) (enough : ms.length < fuel)
    (chars : List Char)
    (hchars : bracketed '\x7b' '\x7d' level (ms.map fun m => memberText m.1 m.2.1)
      = '\x7b' :: chars) :
    Reads (members item true [] fuel) (chars ++ rest) (Printed.insertAll ms []) rest := by
  obtain ⟨fuel, rfl⟩ : ∃ n, fuel = n + 1 := ⟨fuel - 1, by omega⟩
  cases ms with
  | nil =>
    have closing : chars = ['\x7d'] := by simpa [bracketed] using hchars.symm
    rw [closing]
    exact reads_members_end [] (by simp) rest
  | cons m ms =>
    obtain ⟨name, text, a⟩ := m
    have tail := reads_members_tail level ms (Members.insert name a []) rest fuel
      (fun m hm => hms m (List.mem_cons_of_mem _ hm)) (by simp at enough; omega)
    have here := hms (name, text, a) (by simp) _ (head?_tailText level ms rest)
    -- the first member stands on a line of its own, and the others have a comma in front
    have layout : chars ++ rest =
        lineBreak (level + 1) ++ (memberText name text ++ tailText level ms rest) := by
      have cut : chars = lineBreak (level + 1) ++ memberText name text
          ++ ms.flatMap (fun m => ',' :: lineBreak (level + 1) ++ memberText m.1 m.2.1)
          ++ lineBreak level ++ ['\x7d'] := by
        simpa [bracketed, List.flatMap_map] using hchars.symm
      simp [cut, tailText]
    rw [layout]
    exact reads_members_cons (reads_hasMember_first (level + 1) name text _) here tail

end Reader

end AdminPanel.Json
