import AdminPanel.Proofs.Address.Reading
import AdminPanel.Proofs.Rpc.Dialing

/-!
# The normal form of base addresses

A base address is kept as an origin and a prefix. Written one behind the other, with a slash at the end,
they are an address again, and the same one. Everything here is read off the parts of an accepted text
(`Base.parse_eq_ok_iff`): other texts with the same parts, up to what does not count, give the same
address.

* **`Base.Normal`** — what the origin and the prefix of every base address look like.
* **`parse_of_parts`** — when another text gives the address of the same parts.
* **`Base.parts`** — the parts of the normal form, which are those of the address itself.
* **`parse_normal`** — the normal form, and which texts have none.
-/

namespace AdminPanel.Address

open Text (isBlank trimChars trimEndOf)

variable {address : String} {b : Base} {cs : List Char}

/-! ## The prefix -/

/-- No slash is left at the end, and nothing but slashes has been there. -/
theorem dropSlashes_eq_iff {path pathPrefix : String} :
    dropSlashes path = pathPrefix ↔
      (∃ slashes, (∀ c ∈ slashes, c = '/') ∧ path.toList = pathPrefix.toList ++ slashes) ∧
        ∀ c ∈ pathPrefix.toList.getLast?, c ≠ '/' := by
  have chars : dropSlashes path = pathPrefix ↔
      trimEndOf (· == '/') path.toList = pathPrefix.toList := by
    rw [dropSlashes, ← String.toList_inj, String.toList_ofList]
  rw [chars, Text.trimEndOf_eq_iff]
  simp only [beq_iff_eq, beq_eq_false_iff_ne, ne_eq]

/-- A slash more at the end of a path makes no difference to its prefix. -/
theorem dropSlashes_concat (cs : List Char) :
    dropSlashes (String.ofList (cs ++ ['/'])) = dropSlashes (String.ofList cs) := by
  simp [dropSlashes, Text.trimEndOf_concat]

/-- What the origin and the prefix of a base address look like. -/
structure Base.Normal (b : Base) : Prop where
  origin : b.origin = (if b.tls then "https://" else "http://") ++ b.authority
  rooted : b.pathPrefix = "" ∨ b.pathPrefix.toList.head? = some '/'
  trimmed : b.pathPrefix.toList.getLast? ≠ some '/'
  noQuery : '?' ∉ b.pathPrefix.toList
  noFragment : '#' ∉ b.pathPrefix.toList

theorem Base.normal_of_parse (h : Base.parse address = .ok b) : b.Normal := by
  have valid : IsPathText b.pathPrefix := pathPrefix_of_parse h
  have unmarked : ∀ c ∈ b.pathPrefix.toList, c ≠ '?' ∧ c ≠ '#' := fun c within =>
    ne_mark_of_isPathChar (List.all_eq_true.mp valid c within)
  obtain ⟨p, parts, -, -, rfl⟩ := Base.parse_eq_ok_iff.mp h
  obtain ⟨⟨slashes, -, path⟩, last⟩ := dropSlashes_eq_iff.mp (rfl : p.base.pathPrefix = _)
  rw [String.toList_ofList] at path
  refine ⟨?_, ?_, fun same => last '/' same rfl, fun within => (unmarked _ within).1 rfl,
    fun within => (unmarked _ within).2 rfl⟩
  · rcases parts.scheme with lower | lower
    · simp [Base.origin, Base.tls, Parts.base, lower]
    · simp [Base.origin, Base.tls, Parts.base, lower]
  · cases first : p.base.pathPrefix.toList with
    | nil => exact .inl (by simpa using first)
    | cons c more =>
      have slash : c = '/' := parts.rooted c (by rw [path, first]; rfl)
      exact .inr (by rw [slash]; rfl)

/-! ## Other texts of the same address -/

/-- A text with the parts of an address gives the address of the parts. -/
theorem parse_of_parts {p : Parts} (parts : p.IsWeb) (text : trimChars address.toList = p.chars)
    (short : (Text.trim address).utf8ByteSize ≤ maxUriLength) :
    Base.parse address = .ok p.base :=
  Base.parse_eq_ok_iff.mpr ⟨p, parts, text, short, rfl⟩

/-! ### The text of an address that has been read -/

/-- The parts of an address as it is written in its normal form: letters in lower case, one slash at the end,
and no fragment. -/
def Base.parts (b : Base) : Parts :=
  ⟨b.scheme.toList, b.authority.toList, b.pathPrefix.toList ++ ['/'], []⟩

theorem Base.chars_parts (b : Base) : b.parts.chars = (b.origin ++ b.pathPrefix ++ "/").toList := by
  simp [Base.origin, Parts.chars, Base.parts]

theorem Base.scheme_of_parse (h : Base.parse address = .ok b) : b.scheme = "http" ∨ b.scheme = "https" := by
  obtain ⟨-, -, -, -, web, -⟩ := Base.opens_of_parse h
  exact web

theorem Base.isWeb_parts (h : Base.parse address = .ok b) : b.parts.IsWeb where
  scheme := by
    show b.scheme.toList.map Char.toLower = _ ∨ b.scheme.toList.map Char.toLower = _
    rcases Base.scheme_of_parse h with http | https
    · exact .inl (by rw [http]; rfl)
    · exact .inr (by rw [https]; rfl)
  authority := by
    obtain ⟨p, parts, -, -, rfl⟩ := Base.parse_eq_ok_iff.mp h
    show IsAuthority (String.ofList p.authority).toList
    rw [String.toList_ofList]
    exact parts.authority
  path := by
    have valid : b.pathPrefix.toList.all isPathChar = true := pathPrefix_of_parse h
    show (b.pathPrefix.toList ++ ['/']).all isPathChar = true
    rw [List.all_append, valid]
    rfl
  rooted := by
    show ∀ c ∈ (b.pathPrefix.toList ++ ['/']).head?, c = '/'
    rcases (Base.normal_of_parse h).rooted with empty | rooted
    · rw [empty]
      simp
    · rw [List.head?_append, rooted]
      simp
  fragment := fun c first => absurd first.symm (Option.some_ne_none c)

/-- A letter stands in front and a slash at the end, so that nothing is trimmed. -/
theorem Base.trimChars_parts (h : Base.parse address = .ok b) : trimChars b.parts.chars = b.parts.chars := by
  refine Text.trimChars_eq_iff.mpr ⟨⟨[], [], by simp, by simp, by simp⟩, fun c first => ?_, fun c last => ?_⟩
  · have letter : c = 'h' := by
      rw [Parts.chars, show b.parts.scheme = b.scheme.toList from rfl] at first
      rcases Base.scheme_of_parse h with scheme | scheme <;> rw [scheme] at first <;> cases first <;> rfl
    rw [letter]
    rfl
  · have slash : '/' = c := by
      rw [Base.chars_parts, String.toList_append, List.getLast?_append] at last
      exact Option.some.inj last
    rw [← slash]
    rfl

theorem Base.base_parts (h : Base.parse address = .ok b) : b.parts.base = b := by
  have lower : b.scheme.toList.map Char.toLower = b.scheme.toList := by
    rcases Base.scheme_of_parse h with scheme | scheme <;> rw [scheme] <;> rfl
  have pathPrefix : dropSlashes (String.ofList (b.pathPrefix.toList ++ ['/'])) = b.pathPrefix := by
    refine dropSlashes_eq_iff.mpr ⟨⟨['/'], by simp, String.toList_ofList⟩, ?_⟩
    rintro c last rfl
    exact (Base.normal_of_parse h).trimmed last
  show Base.mk (String.ofList (b.scheme.toList.map Char.toLower)) (String.ofList b.authority.toList)
    (dropSlashes (String.ofList (b.pathPrefix.toList ++ ['/']))) = b
  rw [lower, pathPrefix, String.ofList_toList, String.ofList_toList]

/-- **The normal form is an address, and the same one.** -/
theorem parse_origin_prefix (h : Base.parse address = .ok b)
    (short : (b.origin ++ b.pathPrefix ++ "/").utf8ByteSize ≤ maxUriLength) :
    Base.parse (b.origin ++ b.pathPrefix ++ "/") = .ok b := by
  have trimmed : trimChars (b.origin ++ b.pathPrefix ++ "/").toList = b.parts.chars := by
    rw [← Base.chars_parts]
    exact Base.trimChars_parts h
  have whole := parse_of_parts (Base.isWeb_parts h) trimmed (by
    rw [Text.trim, trimmed, Base.chars_parts, String.ofList_toList]
    exact short)
  rw [Base.base_parts h] at whole
  exact whole

/-! ### Blanks and slashes that do not count -/

/-- Blanks around an address do not count. -/
theorem parse_append {before after : List Char} (blankBefore : ∀ c ∈ before, isBlank c = true)
    (blankAfter : ∀ c ∈ after, isBlank c = true) :
    Base.parse (String.ofList before ++ address ++ String.ofList after) = .ok b ↔
      Base.parse address = .ok b := by
  have trimmed : trimChars (String.ofList before ++ address ++ String.ofList after).toList =
      trimChars address.toList := by
    simp only [String.toList_append, String.toList_ofList]
    exact Text.trimChars_append blankBefore blankAfter _
  have text : Text.trim (String.ofList before ++ address ++ String.ofList after) =
      Text.trim address := by
    rw [Text.trim, trimmed, Text.trim]
  rw [Base.parse_eq_ok_iff, Base.parse_eq_ok_iff, trimmed, text]

/-- A slash behind an address makes no difference: it belongs to the path, or to the fragment. -/
theorem parse_slash (h : Base.parse address = .ok b)
    (ends : ∀ c ∈ address.toList.getLast?, isBlank c = false)
    (short : (Text.trim (address ++ "/")).utf8ByteSize ≤ maxUriLength) :
    Base.parse (address ++ "/") = .ok b := by
  obtain ⟨p, parts, text, -, rfl⟩ := Base.parse_eq_ok_iff.mp h
  have trimmed : trimChars (address ++ "/").toList = p.chars ++ ['/'] := by
    rw [String.toList_append, ← text]
    exact Text.trimChars_concat ends (by decide)
  -- the slash goes to the path, or, where there is a fragment, to its end
  cases fragment : p.fragment with
  | nil =>
    let q : Parts := { p with path := p.path ++ ['/'] }
    have qParts : q.IsWeb := by
      refine { parts with path := ?_, rooted := ?_ }
      · show (p.path ++ ['/']).all isPathChar = true
        rw [List.all_append, parts.path]
        rfl
      · show ∀ c ∈ (p.path ++ ['/']).head?, c = '/'
        intro c first
        rw [Option.mem_def, List.head?_append, Option.or_eq_some_iff] at first
        rcases first with inPath | ⟨-, slash⟩
        · exact parts.rooted c inPath
        · cases slash
          rfl
    have qText : trimChars (address ++ "/").toList = q.chars := by
      rw [trimmed]
      simp [Parts.chars, q, fragment]
    have base : q.base = p.base := by
      show Base.mk _ _ (dropSlashes (String.ofList (p.path ++ ['/']))) = _
      rw [dropSlashes_concat]
      rfl
    rw [← base]
    exact parse_of_parts qParts qText short
  | cons c more =>
    let q : Parts := { p with fragment := p.fragment ++ ['/'] }
    have qParts : q.IsWeb := by
      refine { parts with fragment := ?_ }
      show ∀ c ∈ (p.fragment ++ ['/']).head?, c = '#'
      rw [List.head?_append_of_ne_nil _ (by simp [fragment])]
      exact parts.fragment
    have qText : trimChars (address ++ "/").toList = q.chars := by
      rw [trimmed]
      simp [Parts.chars, q]
    -- a fragment is dropped, whatever is in it
    have base : q.base = p.base := rfl
    rw [← base]
    exact parse_of_parts qParts qText short

/-! ## The normal form -/

/-- A text that is no base address. -/
def Refused (address : String) : Prop := ∃ e, Base.parse address = .error e

theorem refused_of_not (h : ∀ b, Base.parse address ≠ .ok b) : Refused address := by
  cases parsed : Base.parse address with
  | error e => exact ⟨e, parsed⟩
  | ok b => exact absurd parsed (h b)

/-- The server is dialed over TLS if the text says so in letters of any case. -/
theorem tls_iff_of_opens {scheme rest : List Char} (h : Base.parse address = .ok b)
    (opens : Opens (trimChars address.toList) scheme rest) :
    b.tls = true ↔ scheme.map Char.toLower = "https".toList := by
  obtain ⟨scheme', rest', opens', lower, -⟩ := Base.opens_of_parse h
  obtain ⟨rfl, -⟩ := opens.unique opens'
  rw [lower, String.toList_inj, Base.tls, beq_iff_eq]

theorem isPathText_name : ∀ m ∈ Rpc.methods, IsPathText m.method.name := by
  decide

/-- The prefix has a path behind it for a slash, and for every method that the panel calls. -/
theorem paths_of_parse (h : Base.parse address = .ok b) :
    pathAndQuery (b.pathPrefix ++ "/").toList = .ok (b.pathPrefix ++ "/", none) ∧
      ∀ m ∈ Rpc.methods, methodPath b.pathPrefix m.method.service.name m.method.name =
        .ok (b.pathPrefix ++ "/" ++ m.method.service.name ++ "/" ++ m.method.name) := by
  have valid : IsPathText b.pathPrefix := pathPrefix_of_parse h
  constructor
  · have whole : IsPathText (b.pathPrefix ++ "/") := isPathText_append valid (by decide)
    rw [pathAndQuery_of_all whole, String.ofList_toList]
  · intro m named
    exact methodPath_of_pathChars valid m.method.service.isPathText_name (isPathText_name m named)

/-- **The normal form of base addresses.** What a text gives is in normal form, says whether the server
is dialed over TLS as the text does, is read from its own text again, and is not changed by a slash at
the end; every method has its path below the prefix. Blanks around a text never count. No text is taken
that has a query, that opens with no authority, or that opens with no known scheme. -/
theorem parse_normal (address : String) :
    (∀ b, Base.parse address = .ok b →
      b.Normal ∧
      (∃ scheme rest, Opens (trimChars address.toList) scheme rest ∧
        (b.tls = true ↔ scheme.map Char.toLower = "https".toList) ∧
        (b.tls = false ↔ scheme.map Char.toLower = "http".toList)) ∧
      ((b.origin ++ b.pathPrefix ++ "/").utf8ByteSize ≤ maxUriLength →
        Base.parse (b.origin ++ b.pathPrefix ++ "/") = .ok b) ∧
      ((∀ c ∈ address.toList.getLast?, isBlank c = false) →
        (Text.trim (address ++ "/")).utf8ByteSize ≤ maxUriLength →
          Base.parse (address ++ "/") = .ok b) ∧
      pathAndQuery (b.pathPrefix ++ "/").toList = .ok (b.pathPrefix ++ "/", none) ∧
      ∀ m ∈ Rpc.methods, methodPath b.pathPrefix m.method.service.name m.method.name =
        .ok (b.pathPrefix ++ "/" ++ m.method.service.name ++ "/" ++ m.method.name)) ∧
    (∀ before after : List Char, (∀ c ∈ before, isBlank c = true) →
      (∀ c ∈ after, isBlank c = true) → ∀ b,
        Base.parse (String.ofList before ++ address ++ String.ofList after) = .ok b ↔
          Base.parse address = .ok b) ∧
    (∀ before after, address.toList = before ++ '?' :: after → '#' ∉ before → Refused address) ∧
    ((∀ scheme rest, Opens (trimChars address.toList) scheme rest →
      ∀ c ∈ rest.head?, endsAuthority c = true) → Refused address) ∧
    ((∀ scheme rest, Opens (trimChars address.toList) scheme rest →
      scheme.map Char.toLower ≠ "http".toList ∧ scheme.map Char.toLower ≠ "https".toList) →
        Refused address) := by
  refine ⟨fun b parsed => ?_, fun before after blankBefore blankAfter b =>
    parse_append blankBefore blankAfter, fun before after text noMark => ?_, fun noAuthority => ?_,
    fun otherScheme => ?_⟩
  -- how the text opens tells the scheme, and no text opens in two ways
  · obtain ⟨scheme, rest, opens, lower, web, -⟩ := Base.opens_of_parse parsed
    have tls := tls_iff_of_opens parsed opens
    have plain : b.tls = false ↔ scheme.map Char.toLower = "http".toList := by
      rw [lower, Base.tls]
      rcases web with http | https
      · simp [http]
      · simp [https]
    obtain ⟨slash, methods⟩ := paths_of_parse parsed
    exact ⟨Base.normal_of_parse parsed, ⟨scheme, rest, opens, tls, plain⟩,
      parse_origin_prefix parsed, parse_slash parsed, slash, methods⟩
  · exact refused_of_not fun b parsed =>
      noMark (Base.number_sign_of_question_mark parsed text)
  · refine refused_of_not fun b parsed => ?_
    obtain ⟨scheme, rest, opens, -, -, c, first, inside⟩ := Base.opens_of_parse parsed
    have ends : endsAuthority c = true := noAuthority scheme rest opens c first
    rw [inside] at ends
    cases ends
  · refine refused_of_not fun b parsed => ?_
    obtain ⟨scheme, rest, opens, lower, web, -⟩ := Base.opens_of_parse parsed
    obtain ⟨notHttp, notHttps⟩ := otherScheme scheme rest opens
    rcases web with http | https
    · exact notHttp (by rw [lower, http])
    · exact notHttps (by rw [lower, https])

/-- An address in capital letters, with a blank in front, a user, a port, and slashes and a fragment at
the end. -/
theorem parse_normal_capitals :
    Base.parse "\u3000HTTPS://u@h:7/a//#f" = .ok ⟨"https", "u@h:7", "/a"⟩ ∧
      Base.parse "https://u@h:7/a/" = .ok ⟨"https", "u@h:7", "/a"⟩ ∧
      Base.parse "\u3000HTTPS://u@h:7/a//#f/" = .ok ⟨"https", "u@h:7", "/a"⟩ := by
  have parsed : Base.parse "\u3000HTTPS://u@h:7/a//#f" = .ok ⟨"https", "u@h:7", "/a"⟩ := by
    decide +kernel
  obtain ⟨-, -, again, slash, -⟩ := (parse_normal "\u3000HTTPS://u@h:7/a//#f").1 _ parsed
  have unblank : ∀ c ∈ "\u3000HTTPS://u@h:7/a//#f".toList.getLast?, isBlank c = false := by
    have last : "\u3000HTTPS://u@h:7/a//#f".toList.getLast? = some 'f' := by decide +kernel
    rintro c ends
    cases last.symm.trans ends
    decide
  exact ⟨parsed, again (by decide +kernel), slash unblank (by decide +kernel)⟩

end AdminPanel.Address
