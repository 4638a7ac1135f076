import AdminPanel.Proofs.Wire.Taking
import AdminPanel.Proofs.Wire.Meaning

/-!
# Which records a decoder takes

A decoder takes exactly the records that can be taken, and what it gives is what they mean, together
with those before. Both directions follow the layout: a payload by its scalar, a field by its kind,
a message by its fields, and messages inside messages by recursion.

## The architecture

* **`Kind.merge_sound`, `Fields.merge_sound`, `Layout.merge_sound`** — what a decoder has taken is a
  record that can be taken, and with it the records so far mean the value that the decoder gives.
* **`Kind.decodes_of_takes`, `Fields.decodes_of_takes`, `Layout.decodes_of_takes`** — a record that
  can be taken is taken, whatever the value so far.
-/

namespace AdminPanel.Wire

variable {α β γ : Type}

/-! ## Payloads -/

theorem expect_eq_ok_iff {expected found : WireType} {bs rest : List UInt8} :
    Decoder.expect expected found bs = .ok ((), rest) ↔ found = expected ∧ bs = rest := by
  rw [Decoder.expect]
  constructor
  · intro h
    split at h
    · next same => exact ⟨same, (pure_eq_ok_iff.mp h).2⟩
    · exact absurd h fail_ne_ok
  · rintro ⟨same, rfl⟩
    rw [if_pos same]
    rfl

theorem text_eq_ok_iff {text : String} {bs rest : List UInt8} :
    Decoder.text bs = .ok (text, rest) ↔ ∃ count block, bs = count ++ block ++ rest ∧
      IsVarint count block.length ∧ String.fromUTF8? ⟨block.toArray⟩ = some text := by
  rw [Decoder.text, bind_eq_ok_iff]
  constructor
  · rintro ⟨n, mid, counted, h⟩
    obtain ⟨count, rfl, isVarint⟩ := varint_eq_ok_iff.mp counted
    obtain ⟨block, mid, taken, decoded⟩ := bind_eq_ok_iff.mp h
    obtain ⟨rfl, rfl⟩ := take_eq_ok_iff.mp taken
    cases found : String.fromUTF8? ⟨block.toArray⟩ with
    | none =>
      rw [found] at decoded
      exact absurd decoded fail_ne_ok
    | some text' =>
      rw [found] at decoded
      obtain ⟨rfl, rfl⟩ := pure_eq_ok_iff.mp decoded
      exact ⟨count, block, (List.append_assoc ..).symm, isVarint, found⟩
  · rintro ⟨count, block, rfl, isVarint, found⟩
    rw [List.append_assoc]
    refine ⟨_, _, isVarint.decodes _, ?_⟩
    rw [bind_eq_ok_iff]
    refine ⟨_, _, decodes_take block rest, ?_⟩
    rw [found]
    rfl

/-- What a scalar takes is the payload of a record, and it gives the value of this record. -/
theorem Scalar.readAs_sound {s : Scalar β} (number : Nat) {w : WireType} {v : β}
    {bs rest : List UInt8} (h : s.readAs w bs = .ok (v, rest)) :
    ∃ r taken, bs = taken ++ rest ∧ Bears number w r taken ∧ s.value? r = some v := by
  obtain ⟨⟨⟩, mid, expected, read⟩ := bind_eq_ok_iff.mp h
  obtain ⟨rfl, rfl⟩ := expect_eq_ok_iff.mp expected
  cases s with
  | uint64 | uint32 | int64 | int32 | bool | enumeration =>
    obtain ⟨n, mid, number, same⟩ := bind_eq_ok_iff.mp read
    obtain ⟨taken, rfl, isVarint⟩ := varint_eq_ok_iff.mp number
    obtain ⟨rfl, rfl⟩ := pure_eq_ok_iff.mp same
    exact ⟨.varint _ n, taken, rfl, ⟨rfl, rfl, .varint isVarint⟩, rfl⟩
  | double =>
    obtain ⟨taken, mid, eight, same⟩ := bind_eq_ok_iff.mp read
    obtain ⟨rfl, length⟩ := take_eq_ok_iff.mp eight
    obtain ⟨rfl, rfl⟩ := pure_eq_ok_iff.mp same
    exact ⟨.fixed64 _ taken, taken, rfl, ⟨rfl, rfl, .fixed64 length⟩, rfl⟩
  | string =>
    obtain ⟨count, block, rfl, isVarint, found⟩ := text_eq_ok_iff.mp read
    exact ⟨.delimited _ block, count ++ block, rfl, ⟨rfl, rfl, .delimited isVarint⟩, found⟩

theorem Scalar.decodes_value {s : Scalar β} {number : Nat} {w : WireType} {r : Record} {v : β}
    {bs : List UInt8} (bears : Bears number w r bs) (value : s.value? r = some v) :
    Decodes (s.readAs w) bs v := by
  obtain ⟨-, rfl, payload⟩ := bears
  -- by the wire type of each scalar; every other record has no value for it
  cases s with
  | uint64 | uint32 | int64 | int32 | bool | enumeration =>
    cases payload with
    | varint isVarint =>
      cases value
      exact (decodes_expect .varint).after (isVarint.decodes.map _)
    | fixed64 | delimited | group | fixed32 => cases value
  | double =>
    cases payload with
    | fixed64 eight =>
      cases value
      have taken := decodes_take bs
      rw [eight] at taken
      exact (decodes_expect .fixed64).after (taken.map _)
    | varint | delimited | group | fixed32 => cases value
  | string =>
    cases payload with
    | delimited isVarint =>
      refine (decodes_expect .delimited).after fun rest => ?_
      exact text_eq_ok_iff.mpr ⟨_, _, rfl, isVarint, value⟩
    | varint | fixed64 | group | fixed32 => cases value

/-! ### Packed numbers -/

/-- The step of a packed list. -/
def pushNumber (vs : List UInt64) : Decoder (List UInt64) := do
  return vs ++ [UInt64.ofNat (← Decoder.varint)]

theorem Packed.push {bs bs' : List UInt8} {vs : List UInt64} {n : Nat} (h : Packed bs vs)
    (isVarint : IsVarint bs' n) : Packed (bs ++ bs') (vs ++ [UInt64.ofNat n]) := by
  induction h with
  | nil =>
    have single := Packed.cons isVarint .nil
    rw [List.append_nil] at single
    exact single
  | cons first _ ih =>
    rw [List.append_assoc]
    exact .cons first ih

theorem Packed.steps {bs : List UInt8} {vs : List UInt64} (h : Packed bs vs)
    (acc : List UInt64) : Steps pushNumber acc bs (acc ++ vs) := by
  -- induction on the numbers
  induction h generalizing acc with
  | nil =>
    rw [List.append_nil]
    exact .done acc
  | @cons _ _ n vs isVarint _ ih =>
    have rest := ih (acc ++ [UInt64.ofNat n])
    rw [List.append_assoc, List.singleton_append] at rest
    exact .more (isVarint.decodes.map _) isVarint.ne_nil rest

theorem pushNumber_sound {acc : List UInt64} {done : List UInt8} {vs vs' : List UInt64}
    {bs rest : List UInt8} (so_far : ∃ new, Packed done new ∧ vs = acc ++ new)
    (h : pushNumber vs bs = .ok (vs', rest)) :
    ∃ taken, taken ≠ [] ∧ bs = taken ++ rest ∧
      ∃ new, Packed (done ++ taken) new ∧ vs' = acc ++ new := by
  obtain ⟨new, packed, rfl⟩ := so_far
  obtain ⟨n, mid, read, same⟩ := bind_eq_ok_iff.mp h
  obtain ⟨taken, rfl, isVarint⟩ := varint_eq_ok_iff.mp read
  obtain ⟨rfl, rfl⟩ := pure_eq_ok_iff.mp same
  exact ⟨taken, isVarint.ne_nil, rfl, _, packed.push isVarint, List.append_assoc ..⟩

/-- A list of numbers takes a packed stretch, or a single number, of each record of its own. -/
theorem packed_sound {depth n : Nat} {w : WireType} {vs vs' : List UInt64}
    {bs rest : List UInt8} (h : Kind.packed.merge depth n w vs bs = .ok (vs', rest)) :
    ∃ r taken, bs = taken ++ rest ∧ Bears n w r taken ∧ ∃ new, r.Brings new ∧ vs' = vs ++ new := by
  rw [Kind.merge] at h
  split at h
  · next delimited =>
    -- what has been read of the block so far stands behind the values of before
    have start : ∃ new, Packed [] new ∧ vs = vs ++ new := ⟨[], .nil, (List.append_nil vs).symm⟩
    obtain ⟨count, block, rfl, isVarint, new, packed, rfl⟩ :=
      counted_sound (P := fun done vs' => ∃ new, Packed done new ∧ vs' = vs ++ new)
        pushNumber_sound start h
    exact ⟨.delimited n block, count ++ block, rfl, ⟨rfl, delimited.symm, .delimited isVarint⟩,
      new, packed, rfl⟩
  -- not delimited: one single number
  · obtain ⟨v, mid, read, same⟩ := bind_eq_ok_iff.mp h
    obtain ⟨r, taken, rfl, bears, value⟩ := Scalar.readAs_sound n read
    obtain ⟨rfl, rfl⟩ := pure_eq_ok_iff.mp same
    refine ⟨r, taken, rfl, bears, [v], ?_, rfl⟩
    cases r with
    | varint =>
      cases value
      rfl
    | fixed64 | delimited | group | fixed32 => cases value

theorem decodes_packed {depth n : Nat} {w : WireType} {r : Record} {bs : List UInt8}
    {new : List UInt64} (bears : Bears n w r bs) (brings : r.Brings new) (vs : List UInt64) :
    Decodes (Kind.packed.merge depth n w vs) bs (vs ++ new) := by
  rw [Kind.merge]
  cases r with
  | varint number k =>
    obtain rfl : WireType.varint = w := bears.wireType
    obtain rfl := brings
    have read : Decodes (Scalar.uint64.readAs .varint) bs (UInt64.ofNat k) :=
      Scalar.decodes_value bears rfl
    rw [if_neg (by decide)]
    exact read.map fun v => vs ++ [v]
  | delimited number block =>
    obtain rfl : WireType.delimited = w := bears.wireType
    obtain ⟨-, -, payload⟩ := bears
    rw [if_pos rfl]
    cases payload with
    | delimited isVarint => exact decodes_counted_of isVarint.decodes (Packed.steps brings vs)
  | fixed64 | group | fixed32 => exact absurd brings id

/-! ## Choices -/

theorem chosen?_eq_some_iff {alternatives : List (Alternative γ)} {r : Record} {v : γ} :
    chosen? alternatives r = some v ↔ ∃ a text,
      (alternatives.find? fun a => a.number == r.number) = some a ∧
      Scalar.string.value? r = some text ∧ a.wrap text = v := by
  rw [chosen?, Option.bind_eq_some_iff]
  simp only [Option.map_eq_some_iff, exists_and_left]

theorem choice_sound {alternatives : List (Alternative γ)} {depth number n : Nat} {w : WireType}
    {v v' : Option γ} {bs rest : List UInt8} (mine : n ∈ (Kind.choice alternatives).numbers number)
    (h : (Kind.choice alternatives).merge depth n w v bs = .ok (v', rest)) :
    ∃ r taken, bs = taken ++ rest ∧ Bears n w r taken ∧ (Scalar.string.value? r).isSome ∧
      v' = chosen? alternatives r := by
  rw [Kind.merge] at h
  cases found : alternatives.find? fun a => a.number == n with
  | none =>
    obtain ⟨a, mem, rfl⟩ := List.mem_map.mp mine
    exact absurd (beq_self_eq_true _) (List.find?_eq_none.mp found a mem)
  | some a =>
    rw [found] at h
    obtain ⟨text, mid, read, same⟩ := bind_eq_ok_iff.mp h
    obtain ⟨r, taken, rfl, bears, value⟩ := Scalar.readAs_sound n read
    obtain ⟨rfl, rfl⟩ := pure_eq_ok_iff.mp same
    rw [← bears.number] at found
    exact ⟨r, taken, rfl, bears, Option.isSome_of_eq_some value,
      (chosen?_eq_some_iff.mpr ⟨a, text, found, value, rfl⟩).symm⟩

/-! ## Records of other fields -/

section Others

variable {owner : String} {depth n : Nat} {w : WireType} {fields : Fields α} {get : α → β}
  {set : β → α → α} {rs : List Record} {m m' : α}

theorem inside_eq_ok_iff {owner field : String} {d : Decoder α} {bs : List UInt8}
    {x : α × List UInt8} : Decoder.inside owner field d bs = .ok x ↔ d bs = .ok x := by
  rw [Decoder.inside]
  cases d bs <;> simp

/-- A record that goes to other fields leaves a field as it was. -/
theorem Fields.Apart.get_merge {bs rest : List UInt8} (apart : fields.Apart get set)
    (h : fields.merge owner depth n w m bs = .ok (m', rest)) : get m' = get m := by
  induction apart with
  | nil =>
    obtain ⟨⟨⟩, mid, -, same⟩ := bind_eq_ok_iff.mp h
    rw [(pure_eq_ok_iff.mp same).1]
  | cons _ _ untouched ih =>
    rw [Fields.merge] at h
    split at h
    · obtain ⟨v, mid, -, same⟩ := bind_eq_ok_iff.mp (inside_eq_ok_iff.mp h)
      rw [← (pure_eq_ok_iff.mp same).1, untouched]
    · exact ih h

theorem Fields.Means.of_set (apart : fields.Apart get set) (means : fields.Means rs m) (v : β) :
    fields.Means rs (set v m) := by
  induction apart with
  | nil => trivial
  | cons _ unseen _ ih =>
    obtain ⟨here, others⟩ := means
    refine ⟨?_, ih others⟩
    rw [unseen]
    exact here

theorem Fields.Means.foreign {r : Record} (means : fields.Means rs m)
    (foreign : r.number ∉ fields.numbers) : fields.Means (rs ++ [r]) m := by
  have alike := Fields.alike_unknown rs [] fields foreign
  rw [List.append_nil] at alike
  exact (fields.means_congr alike m).mpr means

end Others

/-! ## What is taken is a record that can be taken -/

/-- A message that a decoder takes is the payload of a record, and its records are added to those
that the message so far is made of. -/
def Layout.Sound (layout : Layout α) : Prop :=
  ∀ {depth : Nat} {rs : List Record} {m m' : α} {bs rest : List UInt8}, layout.Means rs m →
    layout.merge depth m bs = .ok (m', rest) → ∀ n, ∃ r taken, bs = taken ++ rest ∧
      Bears n .delimited r taken ∧ layout.Takes depth r ∧
      ∃ part, r.Holds part ∧ layout.Means (rs ++ part) m'

/-- The same of a field and a record of its own. -/
def Kind.Sound (kind : Kind β) : Prop :=
  ∀ {depth number n : Nat} {w : WireType} {rs : List Record} {v v' : β} {bs rest : List UInt8},
    n ∈ kind.numbers number → kind.Means rs v → kind.merge depth n w v bs = .ok (v', rest) →
    ∃ r taken, bs = taken ++ rest ∧ Bears n w r taken ∧ kind.Takes depth r ∧
      kind.Means (rs ++ [r]) v'

/-- The same of a message and any record, whatever depth is left. -/
def Fields.Sound (fields : Fields α) : Prop :=
  ∀ {owner : String} {depth n : Nat} {w : WireType} {rs : List Record} {m m' : α}
    {bs rest : List UInt8}, fields.Means rs m →
    fields.merge owner depth n w m bs = .ok (m', rest) →
    ∃ r taken, bs = taken ++ rest ∧ Bears n w r taken ∧ fields.Takes depth r ∧
      fields.Means (rs ++ [r]) m'

theorem sound_scalar (s : Scalar β) : (Kind.scalar s).Sound := by
  intro depth number n w rs v v' bs rest _ _ h
  rw [Kind.merge] at h
  obtain ⟨r, taken, rfl, bears, value⟩ := Scalar.readAs_sound n h
  refine ⟨r, taken, rfl, bears, Option.isSome_of_eq_some value, ?_⟩
  rw [Kind.Means, List.getLast?_concat, Option.bind_some, value, Option.getD_some]

theorem sound_optional (s : Scalar β) : (Kind.optional s).Sound := by
  intro depth number n w rs v v' bs rest _ _ h
  rw [Kind.merge] at h
  obtain ⟨x, mid, read, same⟩ := bind_eq_ok_iff.mp h
  obtain ⟨r, taken, rfl, bears, value⟩ := Scalar.readAs_sound n read
  obtain ⟨rfl, rfl⟩ := pure_eq_ok_iff.mp same
  refine ⟨r, taken, rfl, bears, Option.isSome_of_eq_some value, ?_⟩
  rw [Kind.Means, List.getLast?_concat, Option.bind_some, value]

theorem sound_packed : Kind.packed.Sound := by
  intro depth number n w rs vs vs' bs rest _ means h
  obtain ⟨r, taken, rfl, bears, new, brings, rfl⟩ := packed_sound h
  obtain ⟨parts, before, rfl⟩ := means
  refine ⟨r, taken, rfl, bears, ⟨new, brings⟩, parts ++ [new], ?_, ?_⟩
  · exact List.rel_append before (.cons brings .nil)
  · rw [List.flatten_append, List.flatten_singleton]

theorem sound_choice (alternatives : List (Alternative γ)) : (Kind.choice alternatives).Sound := by
  intro depth number n w rs v v' bs rest mine _ h
  obtain ⟨r, taken, rfl, bears, takes, rfl⟩ := choice_sound mine h
  refine ⟨r, taken, rfl, bears, takes, ?_⟩
  rw [Kind.Means, List.getLast?_concat, Option.bind_some]

theorem Layout.Blank.means {layout : Layout β} {depth : Nat} (lawful : layout.Lawful depth) :
    layout.Means [] layout.empty := by
  cases lawful with
  | mk _ blank => exact blank.means

theorem sound_message {layout : Layout β} {d : Nat} (lawful : layout.Lawful d)
    (sound : layout.Sound) : (Kind.message layout).Sound := by
  intro depth number n w rs v v' bs rest _ means h
  rw [Kind.merge] at h
  obtain ⟨⟨⟩, mid, expected, h⟩ := bind_eq_ok_iff.mp h
  obtain ⟨rfl, rfl⟩ := expect_eq_ok_iff.mp expected
  obtain ⟨m', mid, merged, same⟩ := bind_eq_ok_iff.mp h
  obtain ⟨rfl, rfl⟩ := pure_eq_ok_iff.mp same
  -- the records of all messages before are those of the message so far
  have before : ∃ parts, List.Forall₂ Record.Holds rs parts ∧
      layout.Means parts.flatten (v.getD layout.empty) := by
    cases v with
    | none =>
      obtain rfl : rs = [] := means
      exact ⟨[], .nil, Layout.Blank.means lawful⟩
    | some m => exact means.2
  obtain ⟨parts, holds, so_far⟩ := before
  obtain ⟨r, taken, rfl, bears, takes, part, here, means⟩ := sound so_far merged n
  refine ⟨r, taken, rfl, bears, takes, by simp, parts ++ [part], ?_, ?_⟩
  · exact List.rel_append holds (.cons here .nil)
  · rw [List.flatten_append, List.flatten_singleton]
    exact means

theorem sound_repeated {layout : Layout β} {d : Nat} (lawful : layout.Lawful d)
    (sound : layout.Sound) : (Kind.repeated layout).Sound := by
  intro depth number n w rs ms ms' bs rest _ means h
  rw [Kind.merge] at h
  obtain ⟨⟨⟩, mid, expected, h⟩ := bind_eq_ok_iff.mp h
  obtain ⟨rfl, rfl⟩ := expect_eq_ok_iff.mp expected
  obtain ⟨m', mid, merged, same⟩ := bind_eq_ok_iff.mp h
  obtain ⟨rfl, rfl⟩ := pure_eq_ok_iff.mp same
  obtain ⟨r, taken, rfl, bears, takes, part, here, made⟩ :=
    sound (Layout.Blank.means lawful) merged n
  rw [List.nil_append] at made
  refine ⟨r, taken, rfl, bears, takes, ?_⟩
  exact List.rel_append means (.cons ⟨part, here, made⟩ .nil)

theorem sound_nil : (Fields.nil : Fields α).Sound := by
  intro owner depth n w rs m m' bs rest _ h
  obtain ⟨⟨⟩, mid, skipped, same⟩ := bind_eq_ok_iff.mp h
  obtain ⟨rfl, rfl⟩ := pure_eq_ok_iff.mp same
  obtain ⟨r, taken, rfl, bears, within⟩ := skip_sound skipped
  exact ⟨r, taken, rfl, bears, within, trivial⟩

theorem sound_cons {number : Nat} {name : String} {kind : Kind β} {get : α → β}
    {set : β → α → α} {others : Fields α} (here : kind.Sound) (rest : others.Sound)
    (apart : others.Apart get set) (access : Access get set)
    (distinct : (kind.numbers number ++ others.numbers).Nodup) :
    (Fields.cons number name kind get set others).Sound := by
  obtain ⟨-, -, disjoint⟩ := List.nodup_append.mp distinct
  intro owner depth n w rs m m' bs rest' means h
  obtain ⟨mine, theirs⟩ := means
  rw [Fields.merge] at h
  split at h
  · next owned =>
    -- the field takes the record, and the others do not own it
    obtain ⟨v, mid, merged, same⟩ := bind_eq_ok_iff.mp (inside_eq_ok_iff.mp h)
    obtain ⟨rfl, rfl⟩ := pure_eq_ok_iff.mp same
    have number_mem := (kind.owns_iff number n).mp owned
    obtain ⟨r, taken, rfl, bears, takes, means⟩ := here number_mem mine merged
    rw [← bears.number] at owned number_mem
    refine ⟨r, taken, rfl, bears, ?_, ?_, ?_⟩
    · rw [Fields.Takes, if_pos owned]
      exact takes
    · rw [Kind.own_append, Kind.own_cons_mine owned, access.get_set]
      exact means
    · exact (theirs.of_set apart v).foreign fun other => disjoint _ number_mem _ other rfl
  · next foreign =>
    -- the field stays as it is
    obtain ⟨r, taken, rfl, bears, takes, means⟩ := rest theirs h
    rw [← bears.number] at foreign
    refine ⟨r, taken, rfl, bears, ?_, ?_, means⟩
    · rw [Fields.Takes, if_neg foreign]
      exact takes
    · rw [Kind.own_append, Kind.own_cons_foreign foreign, apart.get_merge h]
      show kind.Means (kind.own number rs ++ []) (get m)
      rw [List.append_nil]
      exact mine

/-- The records that a message has been given, on top of those it was made of. -/
def Fields.Given (fields : Fields α) (depth : Nat) (rs : List Record) (done : List UInt8) (m : α) :
    Prop :=
  ∃ part, Splits done part ∧ (∀ r ∈ part, fields.Takes depth r) ∧ fields.Means (rs ++ part) m

theorem Fields.Sound.step {fields : Fields α} (sound : fields.Sound) {owner : String} {depth : Nat}
    {rs : List Record} {done bs rest : List UInt8} {m m' : α}
    (given : fields.Given depth rs done m)
    (h : fields.step owner depth m bs = .ok (m', rest)) :
    ∃ taken, taken ≠ [] ∧ bs = taken ++ rest ∧ fields.Given depth rs (done ++ taken) m' := by
  obtain ⟨part, splits, takes, means⟩ := given
  obtain ⟨⟨n, w⟩, mid, read, merged⟩ := bind_eq_ok_iff.mp h
  obtain ⟨key, rfl, isKey⟩ := key_eq_ok_iff.mp read
  obtain ⟨r, payload, rfl, bears, takesHere, meansHere⟩ := sound means merged
  rw [← bears.number, ← bears.wireType] at isKey
  refine ⟨key ++ payload, by simp [isKey.ne_nil], (List.append_assoc ..).symm, part ++ [r], ?_, ?_, ?_⟩
  · exact splits.append (.one isKey bears.payload)
  · exact List.forall_mem_append.mpr ⟨takes, List.forall_mem_singleton.mpr takesHere⟩
  · rw [← List.append_assoc]
    exact meansHere

theorem sound_mk {name : String} {empty : α} {fields : Fields α} (sound : fields.Sound) :
    (Layout.mk name empty fields).Sound := by
  intro depth rs m m' bs rest means h n
  cases depth with
  | zero => cases h
  | succ depth =>
    have start : fields.Given depth rs [] m := by
      refine ⟨[], .nil, fun r none => absurd none List.not_mem_nil, ?_⟩
      rw [List.append_nil]
      exact means
    have counted : Decoder.counted (fields.step name depth) m bs = .ok (m', rest) := h
    obtain ⟨count, block, rfl, isVarint, part, splits, takes, made⟩ :=
      counted_sound (P := fields.Given depth rs) sound.step start counted
    refine ⟨.delimited n block, count ++ block, rfl, ⟨rfl, rfl, .delimited isVarint⟩, ?_, ?_⟩
    · exact ⟨depth, rfl, part, splits, takes⟩
    · exact ⟨part, splits, made⟩

mutual

theorem Kind.merge_sound : {β : Type} → {depth : Nat} → {kind : Kind β} →
    kind.Lawful depth → kind.Sound
  | _, _, _, .scalar s => sound_scalar s
  | _, _, _, .optional s => sound_optional s
  | _, _, _, .packed => sound_packed
  | _, _, _, .message lawful => sound_message lawful (Layout.merge_sound lawful)
  | _, _, _, .repeated lawful => sound_repeated lawful (Layout.merge_sound lawful)
  | _, _, _, .choice _ _ => sound_choice _

theorem Fields.merge_sound : {α : Type} → {depth : Nat} → {fields : Fields α} →
    fields.Lawful depth → fields.numbers.Nodup → fields.Sound
  | _, _, _, .nil, _ => sound_nil
  | _, _, _, .cons here others apart access, distinct =>
    sound_cons (Kind.merge_sound here)
      (Fields.merge_sound others (List.nodup_append.mp distinct).2.1) apart access distinct

/-- **What is taken is a record that can be taken.** Recursion along the laws of the layout. -/
theorem Layout.merge_sound : {α : Type} → {depth : Nat} → {layout : Layout α} →
    layout.Lawful depth → layout.Sound
  | _, _, _, .mk lawful _ _ distinct _ => sound_mk (Fields.merge_sound lawful distinct)

end

/-! ## What can be taken is taken -/

theorem Fields.steps_of_takes {fields : Fields α} (owner : String) {depth : Nat}
    (progress : ∀ {n w r bs}, Bears n w r bs → fields.Takes depth r →
      ∀ m, ∃ m', Decodes (fields.merge owner depth n w m) bs m')
    {rs : List Record} {bs : List UInt8} (splits : Splits bs rs)
    (takes : ∀ r ∈ rs, fields.Takes depth r) (m : α) :
    ∃ m', Steps (fields.step owner depth) m bs m' := by
  -- induction on the records
  induction rs generalizing bs m with
  | nil =>
    cases splits
    exact ⟨m, .done m⟩
  | cons r rs ih =>
    cases splits with
    | @cons _ _ key payload others isKey hpayload hothers =>
      obtain ⟨here, theirs⟩ := List.forall_mem_cons.mp takes
      obtain ⟨m', merged⟩ := progress ⟨rfl, rfl, hpayload⟩ here m
      obtain ⟨last, steps⟩ := ih hothers theirs m'
      rw [← List.append_assoc]
      refine ⟨last, .more ?_ (by simp [isKey.ne_nil]) steps⟩
      exact isKey.decodes.bind merged

theorem Layout.delimited_of_takes {layout : Layout α} {depth n : Nat} {w : WireType} {r : Record}
    {bs : List UInt8} (bears : Bears n w r bs) (takes : layout.Takes depth r) : w = .delimited := by
  obtain ⟨-, rfl, -⟩ := bears
  cases layout with
  | mk name empty fields =>
    obtain ⟨depth, -, rs, holds, -⟩ := takes
    cases r with
    | delimited => rfl
    | varint | fixed64 | group | fixed32 => exact absurd holds id

mutual

theorem Kind.decodes_of_takes {β : Type} : (kind : Kind β) → ∀ {depth number n : Nat}
    {w : WireType} {r : Record} {bs : List UInt8}, Bears n w r bs →
    kind.owns number n = true → kind.Takes depth r →
    ∀ v, ∃ v', Decodes (kind.merge depth n w v) bs v'
  | .scalar s, _, _, _, _, _, _, bears, _, takes, _ => by
    obtain ⟨v', value⟩ := Option.isSome_iff_exists.mp takes
    exact ⟨v', Scalar.decodes_value bears value⟩
  | .optional s, _, _, _, _, _, _, bears, _, takes, _ => by
    obtain ⟨v', value⟩ := Option.isSome_iff_exists.mp takes
    exact ⟨some v', (Scalar.decodes_value bears value).map some⟩
  | .packed, _, _, _, _, _, _, bears, _, takes, vs => by
    obtain ⟨new, brings⟩ := takes
    exact ⟨vs ++ new, decodes_packed bears brings vs⟩
  | .message layout, _, _, _, _, _, _, bears, _, takes, v => by
    obtain ⟨m', merged⟩ := Layout.decodes_of_takes layout bears takes (v.getD layout.empty)
    obtain rfl := Layout.delimited_of_takes bears takes
    exact ⟨some m', (decodes_expect .delimited).after (merged.map some)⟩
  | .repeated layout, _, _, _, _, _, _, bears, _, takes, vs => by
    obtain ⟨m', merged⟩ := Layout.decodes_of_takes layout bears takes layout.empty
    obtain rfl := Layout.delimited_of_takes bears takes
    exact ⟨vs ++ [m'], (decodes_expect .delimited).after (merged.map fun m => vs ++ [m])⟩
  | .choice alternatives, _, _, n, _, _, _, bears, owned, takes, v => by
    obtain ⟨text, value⟩ := Option.isSome_iff_exists.mp takes
    obtain ⟨a, mem, same⟩ := List.any_eq_true.mp owned
    have isSome : (alternatives.find? fun a => a.number == n).isSome :=
      List.find?_isSome.mpr ⟨a, mem, same⟩
    obtain ⟨a', found⟩ := Option.isSome_iff_exists.mp isSome
    refine ⟨some (a'.wrap text), ?_⟩
    rw [Kind.merge, found]
    exact (Scalar.decodes_value bears value).map fun text => some (a'.wrap text)

theorem Fields.decodes_of_takes {α : Type} : (fields : Fields α) → ∀ {owner : String}
    {depth n : Nat} {w : WireType} {r : Record} {bs : List UInt8}, Bears n w r bs →
    fields.Takes depth r → ∀ m, ∃ m', Decodes (fields.merge owner depth n w m) bs m'
  | .nil, _, _, _, _, _, _, bears, takes, m =>
    ⟨m, (decodes_skip bears takes).bind_nil (.pure m)⟩
  | .cons number name kind get set rest, owner, depth, n, w, r, bs, bears, takes, m => by
    rw [Fields.Takes, bears.number] at takes
    rw [Fields.merge]
    split at takes
    · next owned =>
      rw [if_pos owned]
      obtain ⟨v', merged⟩ := Kind.decodes_of_takes kind bears owned takes (get m)
      exact ⟨set v' m, (merged.map fun v => set v m).inside owner name⟩
    · next foreign =>
      rw [if_neg foreign]
      exact Fields.decodes_of_takes rest bears takes m

/-- **What can be taken is taken.** Recursion along the layout. -/
theorem Layout.decodes_of_takes {α : Type} : (layout : Layout α) → ∀ {depth n : Nat}
    {w : WireType} {r : Record} {bs : List UInt8}, Bears n w r bs → layout.Takes depth r →
    ∀ m, ∃ m', Decodes (layout.merge depth m) bs m'
  | .mk name empty fields, _, _, _, r, _, bears, takes, m => by
    obtain ⟨depth, rfl, rs, holds, all⟩ := takes
    obtain ⟨-, -, payload⟩ := bears
    cases payload with
    | delimited isVarint =>
      obtain ⟨m', steps⟩ :=
        Fields.steps_of_takes name (Fields.decodes_of_takes fields) holds all m
      exact ⟨m', decodes_counted_of isVarint.decodes steps⟩
    | varint | fixed64 | group | fixed32 => exact absurd holds id

end

end AdminPanel.Wire
