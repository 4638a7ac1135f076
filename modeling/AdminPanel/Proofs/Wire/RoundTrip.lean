import AdminPanel.Proofs.Wire.Decoding
import AdminPanel.Proofs.Wire.Signs

/-!
# Reading undoes writing, for every lawful layout

Reading what has been written gives the value back, but for the sign of zeros. The proof follows
the layout: a scalar by its payload, a field by the records that are written for it, a message by
its fields one after the other, and messages inside messages by induction on how deep they may
nest.

## The architecture

* **`Fields.Serves`** — records with the number of a field reach this field. Since all numbers are
  distinct, a message serves all of its fields (`servesAll_self`).
* **`Kind.steps`** — the records of one field lead from a value without the field to the value
  with it; `Fields.steps` follows the fields.
* **`roundTrips`** — a message inside another one is read back, by induction on how deep messages
  nest, and **`Layout.read_write`** — so is a whole message.
-/

namespace AdminPanel.Wire

variable {α β : Type}

/-! ## Records reach their field -/

theorem Kind.owns_iff (kind : Kind β) (number n : Nat) :
    kind.owns number n = true ↔ n ∈ kind.numbers number := by
  cases kind with
  | choice alternatives => simp only [owns, numbers, List.any_eq_true, beq_iff_eq, List.mem_map]
  | scalar | optional | packed | message | repeated =>
    show (number == n) = true ↔ n ∈ [number]
    rw [beq_iff_eq, List.mem_singleton, eq_comm]

/-- In the message, records with the numbers of a field are taken into this field. -/
def Fields.Serves (whole : Fields α) (owner : String) (depth number : Nat) (name : String)
    (kind : Kind β) (get : α → β) (set : β → α → α) : Prop :=
  ∀ n ∈ kind.numbers number, ∀ w m, whole.merge owner depth n w m =
    Decoder.inside owner name do return set (← kind.merge depth n w (get m)) m

def Fields.ServesAll (whole : Fields α) (owner : String) (depth : Nat) : Fields α → Prop
  | .nil => True
  | .cons number name kind get set rest =>
    whole.Serves owner depth number name kind get set ∧ ServesAll whole owner depth rest

/-- Fields are served by every message that takes their records as they do themselves. Recursion
along the fields; that no number comes twice carries it. -/
theorem Fields.servesAll_of_agree {whole : Fields α} {owner : String} {depth : Nat} :
    (fields : Fields α) → fields.numbers.Nodup →
    (∀ n ∈ fields.numbers, ∀ w m,
      whole.merge owner depth n w m = fields.merge owner depth n w m) →
    whole.ServesAll owner depth fields
  | .nil, _, _ => trivial
  | .cons number name kind get set rest, distinct, agree => by
    obtain ⟨-, restDistinct, apart⟩ := List.nodup_append.mp distinct
    -- records of the first field stop there, all others go on
    constructor
    · intro n mine w m
      rw [agree n (List.mem_append_left _ mine), Fields.merge,
        if_pos ((kind.owns_iff number n).mpr mine)]
    · refine servesAll_of_agree rest restDistinct fun n others w m => ?_
      have foreign : ¬ kind.owns number n = true := by
        rw [kind.owns_iff]
        intro mine
        exact apart n mine n others rfl
      rw [agree n (List.mem_append_right _ others), Fields.merge, if_neg foreign]

theorem Fields.servesAll_self {owner : String} {depth : Nat} {fields : Fields α}
    (distinct : fields.numbers.Nodup) : fields.ServesAll owner depth fields :=
  servesAll_of_agree fields distinct fun _ _ _ _ => rfl

def Fields.step (owner : String) (depth : Nat) (fields : Fields α) (m : α) : Decoder α := do
  let (number, w) ← Decoder.key
  fields.merge owner depth number w m

/-! ## The records of one field

Nothing is written of a field that is empty, and then nothing is to be set. Otherwise one record
after the other leads to the value, each from what the records before it have made.
-/

/-- Messages that nest at most so deep are read back from their counted bytes. -/
def RoundTrips (depth : Nat) : Prop :=
  ∀ {α : Type} (layout : Layout α), layout.Lawful depth → ∀ v : α,
    (layout.write v).length < 2 ^ 64 →
    Decodes (layout.merge depth layout.empty) (sized (layout.write v)) (layout.unsigned v)

theorem key_ne_nil (number : Nat) (w : WireType) : key number w ≠ [] := varint_ne_nil _

/-- The payload of a scalar is taken where the key promises it. -/
theorem Scalar.decodes_readAs (s : Scalar β) (v : β) (short : (s.payload v).length < 2 ^ 64) :
    Decodes (s.readAs s.wireType) (s.payload v) v :=
  (decodes_expect s.wireType).after (s.decodes v short)

/-- A packed list grows by the numbers of its stretch. -/
theorem steps_packed (vs acc : List UInt64) :
    Steps (fun vs => do return vs ++ [UInt64.ofNat (← Decoder.varint)]) acc
      (vs.flatMap fun v => varint v.toNat) (acc ++ vs) := by
  -- induction on the numbers
  induction vs generalizing acc with
  | nil =>
    rw [List.append_nil]
    exact .done acc
  | cons v vs ih =>
    have first := (decodes_varint v.toNat_lt).map fun n => acc ++ [UInt64.ofNat n]
    rw [UInt64.ofNat_toNat] at first
    have rest := ih (acc ++ [v])
    rw [List.append_assoc, List.singleton_append] at rest
    exact .more first (varint_ne_nil _) rest

/-- Of a choice, the record of an alternative that the value is. -/
theorem writeChoice_of_taken {γ : Type} {v : γ} {alternatives : List (Alternative γ)}
    (taken : ∃ a ∈ alternatives, (a.unwrap v).isSome) :
    ∃ a ∈ alternatives, ∃ text, a.unwrap v = some text ∧
      writeChoice v alternatives = Scalar.string.record a.number text := by
  induction alternatives with
  | nil =>
    obtain ⟨a, none, -⟩ := taken
    exact absurd none List.not_mem_nil
  | cons a rest ih =>
    rw [writeChoice]
    cases found : a.unwrap v with
    | some text => exact ⟨a, List.mem_cons_self, text, found, rfl⟩
    | none =>
      obtain ⟨b, mem, isSome⟩ := taken
      have later : b ∈ rest := by
        refine (List.mem_cons.mp mem).resolve_left fun same => ?_
        rw [same, found] at isSome
        cases isSome
      obtain ⟨c, mem, text, unwrap, written⟩ := ih ⟨b, later, isSome⟩
      exact ⟨c, List.mem_cons_of_mem a mem, text, unwrap, written⟩

theorem find?_alternative {γ : Type} {alternatives : List (Alternative γ)} {a : Alternative γ}
    (distinct : (alternatives.map (·.number)).Nodup) (mem : a ∈ alternatives) :
    (alternatives.find? fun b => b.number == a.number) = some a := by
  induction alternatives with
  | nil => exact absurd mem List.not_mem_nil
  | cons b rest ih =>
    obtain ⟨fresh, distinct⟩ := List.nodup_cons.mp distinct
    obtain rfl | later := List.mem_cons.mp mem
    · exact List.find?_cons_of_pos (beq_self_eq_true _)
    · rw [List.find?_cons_of_neg, ih distinct later]
      rw [beq_iff_eq]
      intro same
      exact fresh (List.mem_map.mpr ⟨a, later, same.symm⟩)

/-- A field at work in a message: its records reach it, it is read as it was set, and its numbers
fit keys and are distinct. -/
structure Fields.Hosts (whole : Fields α) (owner : String) (depth number : Nat) (name : String)
    (kind : Kind β) (get : α → β) (set : β → α → α) : Prop where
  serves : whole.Serves owner depth number name kind get set
  access : Access get set
  inRange : ∀ n ∈ kind.numbers number, 0 < n ∧ n < 0x20000000
  distinct : (kind.numbers number).Nodup

section Field

variable {owner name : String} {depth number : Nat} {whole : Fields α}

/-- One record of a field sets it to what its payload makes of it. -/
theorem steps_record {kind : Kind β} {get : α → β} {set : β → α → α}
    (host : whole.Hosts owner depth number name kind get set) {n : Nat}
    (mine : n ∈ kind.numbers number) {w : WireType} {payload : List UInt8} {base : α} {v : β}
    (h : Decodes (kind.merge depth n w (get base)) payload v) :
    Steps (whole.step owner depth) base (key n w ++ payload) (set v base) := by
  obtain ⟨positive, small⟩ := host.inRange n mine
  refine .one ?_ (by simp [key_ne_nil])
  refine (decodes_key positive small w).bind ?_
  show Decodes (whole.merge owner depth n w base) payload (set v base)
  rw [host.serves n mine w base]
  exact (h.map fun v => set v base).inside owner name

/-- Nothing is to be set of a field that is already as it shall be. -/
theorem steps_nil {kind : Kind β} {get : α → β} {set : β → α → α}
    (host : whole.Hosts owner depth number name kind get set) {base : α} {v : β}
    (h : get base = v) : Steps (whole.step owner depth) base [] (set v base) := by
  rw [← h, host.access.set_get]
  exact .done base

theorem steps_scalar {s : Scalar β} {get : α → β} {set : β → α → α}
    (host : whole.Hosts owner depth number name (.scalar s) get set) {base : α} {v : β}
    (blank : get base = s.default) (short : ((Kind.scalar s).write number v).length < 2 ^ 64) :
    Steps (whole.step owner depth) base ((Kind.scalar s).write number v)
      (set (s.unsigned v) base) := by
  rw [Kind.write] at short ⊢
  cases h : s.isDefault v with
  | true =>
    rw [if_pos rfl, Scalar.unsigned_of_isDefault h]
    exact steps_nil host blank
  | false =>
    rw [h, if_neg Bool.false_ne_true, Scalar.record, List.length_append] at short
    rw [if_neg Bool.false_ne_true, Scalar.unsigned_of_not_isDefault h]
    refine steps_record host (List.mem_singleton_self number) ?_
    rw [Kind.merge]
    exact s.decodes_readAs v (by omega)

theorem steps_optional {s : Scalar β} {get : α → Option β} {set : Option β → α → α}
    (host : whole.Hosts owner depth number name (.optional s) get set) {base : α} {v : Option β}
    (blank : get base = none) (short : ((Kind.optional s).write number v).length < 2 ^ 64) :
    Steps (whole.step owner depth) base ((Kind.optional s).write number v) (set v base) := by
  cases v with
  | none => exact steps_nil host blank
  | some v =>
    rw [Kind.write, Scalar.record, List.length_append] at short
    refine steps_record host (List.mem_singleton_self number) ?_
    rw [Kind.merge]
    exact (s.decodes_readAs v (by omega)).map some

theorem steps_numbers {get : α → List UInt64} {set : List UInt64 → α → α}
    (host : whole.Hosts owner depth number name .packed get set) {base : α} {vs : List UInt64}
    (blank : get base = []) (short : (Kind.packed.write number vs).length < 2 ^ 64) :
    Steps (whole.step owner depth) base (Kind.packed.write number vs) (set vs base) := by
  rw [Kind.write] at short ⊢
  cases empty : vs.isEmpty with
  | true =>
    rw [if_pos rfl]
    exact steps_nil host (blank.trans (List.isEmpty_iff.mp empty).symm)
  | false =>
    rw [empty, if_neg Bool.false_ne_true, sized, List.length_append, List.length_append] at short
    rw [if_neg Bool.false_ne_true]
    refine steps_record host (List.mem_singleton_self number) ?_
    rw [Kind.merge, if_pos rfl, blank]
    exact decodes_counted (steps_packed vs []) (by omega)

theorem steps_message (ih : RoundTrips depth) {layout : Layout β} (lawful : layout.Lawful depth)
    {get : α → Option β} {set : Option β → α → α}
    (host : whole.Hosts owner depth number name (.message layout) get set) {base : α}
    {v : Option β} (blank : get base = none)
    (short : ((Kind.message layout).write number v).length < 2 ^ 64) :
    Steps (whole.step owner depth) base ((Kind.message layout).write number v)
      (set (v.map layout.unsigned) base) := by
  cases v with
  | none => exact steps_nil host blank
  | some v =>
    rw [Kind.write, sized, List.length_append, List.length_append] at short
    refine steps_record host (List.mem_singleton_self number) ?_
    rw [Kind.merge, blank]
    exact (decodes_expect .delimited).after ((ih layout lawful v (by omega)).map some)

/-- Messages are added one by one to those that the list already has. -/
theorem steps_repeated (ih : RoundTrips depth) {layout : Layout β} (lawful : layout.Lawful depth)
    {get : α → List β} {set : List β → α → α}
    (host : whole.Hosts owner depth number name (.repeated layout) get set) (vs : List β) (base : α)
    (short : ((Kind.repeated layout).write number vs).length < 2 ^ 64) :
    Steps (whole.step owner depth) base ((Kind.repeated layout).write number vs)
      (set (get base ++ vs.map layout.unsigned) base) := by
  -- induction on the messages
  induction vs generalizing base with
  | nil => exact steps_nil host (List.append_nil _).symm
  | cons v vs rest =>
    rw [Kind.write, List.flatMap_cons, List.length_append, sized, List.length_append,
      List.length_append] at short
    -- one record adds the first message, then the others are added to what it leaves
    have first : Steps (whole.step owner depth) base
        (key number .delimited ++ sized (layout.write v))
        (set (get base ++ [layout.unsigned v]) base) := by
      refine steps_record host (List.mem_singleton_self number) ?_
      rw [Kind.merge]
      exact (decodes_expect .delimited).after
        ((ih layout lawful v (by omega)).map fun v => get base ++ [v])
    have others := rest (set (get base ++ [layout.unsigned v]) base) (by rw [Kind.write]; omega)
    rw [host.access.get_set, host.access.set_set, List.append_assoc] at others
    rw [Kind.write, List.flatMap_cons]
    exact first.trans others

theorem steps_choice {γ : Type} {alternatives : List (Alternative γ)}
    (taken : ∀ v, ∃ a ∈ alternatives, (a.unwrap v).isSome)
    (wrapped : ∀ a ∈ alternatives, ∀ v text, a.unwrap v = some text → a.wrap text = v)
    {get : α → Option γ} {set : Option γ → α → α}
    (host : whole.Hosts owner depth number name (.choice alternatives) get set) {base : α}
    {v : Option γ} (blank : get base = none)
    (short : ((Kind.choice alternatives).write number v).length < 2 ^ 64) :
    Steps (whole.step owner depth) base ((Kind.choice alternatives).write number v)
      (set v base) := by
  cases v with
  | none => exact steps_nil host blank
  | some v =>
    obtain ⟨a, mem, text, unwrap, written⟩ := writeChoice_of_taken (taken v)
    rw [Kind.write, written, Scalar.record, List.length_append] at short
    rw [Kind.write, written]
    refine steps_record host (List.mem_map.mpr ⟨a, mem, rfl⟩) ?_
    rw [Kind.merge, find?_alternative host.distinct mem]
    have read := (Scalar.string.decodes_readAs text (by omega)).map fun text => some (a.wrap text)
    rw [wrapped a mem v text unwrap] at read
    exact read

/-- **The records of a field set it to its value**, from a message in which it is empty. -/
theorem Kind.steps (ih : RoundTrips depth) {kind : Kind β} (lawful : kind.Lawful depth)
    {get : α → β} {set : β → α → α}
    (host : whole.Hosts owner depth number name kind get set) {base : α} {v : β}
    (blank : get base = kind.empty) (short : (kind.write number v).length < 2 ^ 64) :
    Steps (whole.step owner depth) base (kind.write number v) (set (kind.unsigned v) base) := by
  cases lawful with
  | scalar s => exact steps_scalar host blank short
  | optional s => exact steps_optional host blank short
  | packed => exact steps_numbers host blank short
  | message h => exact steps_message ih h host blank short
  | repeated h =>
    have added := steps_repeated ih h host v base short
    rw [blank] at added
    exact added
  | choice taken wrapped => exact steps_choice taken wrapped host blank short

end Field

/-! ## The fields of a message -/

theorem Fields.Blank.set {fields : Fields α} {get : α → β} {set : β → α → α}
    (apart : fields.Apart get set) {m : α} (blank : fields.Blank m) (v : β) :
    fields.Blank (set v m) := by
  induction apart with
  | nil => exact .nil
  | cons _ unseen _ ih =>
    cases blank with
    | cons others here => exact .cons (ih others) ((unseen v m).trans here)

/-- **The records of all fields lead to the value**, from a message in which none has any.
Recursion along the fields; the fields that are still to come stay empty. -/
theorem Fields.steps {owner : String} {depth : Nat} {whole : Fields α} (ih : RoundTrips depth) :
    (fields : Fields α) → fields.Lawful depth → fields.numbers.Nodup →
    (∀ n ∈ fields.numbers, 0 < n ∧ n < 0x20000000) → whole.ServesAll owner depth fields →
    ∀ {m base : α}, fields.Blank base → (fields.write m).length < 2 ^ 64 →
    Steps (whole.step owner depth) base (fields.write m) (fields.unsignedOnto m base)
  | .nil, _, _, _, _, _, base, _, _ => .done base
  | .cons number name kind get set rest, .cons here others apart access, distinct, inRange,
      served, m, base, .cons blankRest blank, short => by
    obtain ⟨serves, servesRest⟩ := served
    obtain ⟨distinctHere, distinctRest, -⟩ := List.nodup_append.mp distinct
    have host : whole.Hosts owner depth number name kind get set :=
      ⟨serves, access, fun n mine => inRange n (List.mem_append_left _ mine), distinctHere⟩
    rw [Fields.write, List.length_append] at short
    have first := Kind.steps ih here host blank (v := get m) (by omega)
    -- setting the first field leaves the others empty, as they must be for their own records
    have then_ := Fields.steps ih rest others distinctRest
      (fun n mine => inRange n (List.mem_append_right _ mine)) servesRest
      (m := m) (blankRest.set apart (kind.unsigned (get m))) (by omega)
    exact first.trans then_

/-- **A message is read back from its counted bytes.** -/
theorem roundTrips (depth : Nat) : RoundTrips depth := by
  -- induction on how deep messages may nest
  induction depth with
  | zero =>
    intro α layout lawful
    cases lawful
  | succ depth ih =>
    intro α layout lawful m short
    cases lawful with
    | @mk _ _ name empty fields h blank whole distinct inRange =>
      have steps : Steps (fields.step name depth) empty (fields.write m)
          (fields.unsignedOnto m empty) :=
        Fields.steps ih fields h distinct inRange (Fields.servesAll_self distinct) blank short
      rw [whole m empty m] at steps
      exact decodes_counted steps short

/-- **Reading undoes writing.** What comes back of a message is the message, but for the sign of
zeros. -/
theorem Layout.read_write {layout : Layout α} (lawful : layout.Lawful (maxDepth + 1)) (m : α)
    (short : (layout.write m).length < 2 ^ 64) :
    layout.read (layout.write m) = .ok (layout.unsigned m) := by
  cases lawful with
  | @mk _ _ name empty fields h blank whole distinct inRange =>
    have steps : Steps (fields.step name maxDepth) empty (fields.write m)
        (fields.unsignedOnto m empty) :=
      Fields.steps (roundTrips maxDepth) fields h distinct inRange (Fields.servesAll_self distinct)
        blank short
    rw [whole m empty m] at steps
    have taken := untilLeft_of_steps steps [] (le_refl (fields.write m).length)
    rw [List.append_nil, List.length_nil] at taken
    -- the records of a message are taken as those of a message inside another one
    have step : (Layout.mk name empty fields).record = fields.step name maxDepth := rfl
    rw [Layout.read, step, Layout.empty, Layout.write, taken]
    rfl

end AdminPanel.Wire
