import AdminPanel.Proofs.Address.MethodPath

/-!
# Which texts are base addresses

The texts that are read as a base address, told without the reader: a scheme in letters of any case, an
authority, a path, and a fragment that nobody looks at.

* **`Parts`** — a text in its four parts; `Parts.IsWeb` says which parts belong together.
* **`parse_eq_ok_iff`** — exactly these texts are accepted, blanks around them apart, and the address that
  they give is read off the parts.
* **`Opens`** — what stands in front of the first colon and behind the two slashes, for every text; an
  accepted one opens with a known scheme and an authority (`opens_of_parse`).
-/

namespace AdminPanel.Address

open Text (isBlank trimChars)

variable {cs rest : List Char} {address : String} {b : Base}

/-! ## The parts of an address -/

/-- Whether characters are an authority: brackets, colons and at signs where they may stand. -/
structure IsAuthority (cs : List Char) : Prop where
  some' : cs ≠ []
  inside : ∀ c ∈ cs, endsAuthority c = false
  complete : ∃ scan, cs.foldlM AuthorityScan.step {} = .ok scan ∧ scan.isComplete = true

/-- A text in the parts that an address has. -/
structure Parts where
  scheme : List Char
  authority : List Char
  path : List Char
  fragment : List Char

namespace Parts

def chars (p : Parts) : List Char :=
  p.scheme ++ ':' :: '/' :: '/' :: (p.authority ++ (p.path ++ p.fragment))

/-- The parts are those of an address that the panel takes. -/
structure IsWeb (p : Parts) : Prop where
  scheme : p.scheme.map Char.toLower = ['h', 't', 't', 'p'] ∨
    p.scheme.map Char.toLower = ['h', 't', 't', 'p', 's']
  authority : IsAuthority p.authority
  path : p.path.all isPathChar = true
  rooted : ∀ c ∈ p.path.head?, c = '/'
  fragment : ∀ c ∈ p.fragment.head?, c = '#'

/-- The address of the parts. -/
def base (p : Parts) : Base :=
  ⟨String.ofList (p.scheme.map Char.toLower), String.ofList p.authority,
    dropSlashes (String.ofList p.path)⟩

end Parts

/-! ## What a text opens with -/

/-- A text opens with what stands in front of its first colon, if two slashes follow the colon. -/
structure Opens (cs scheme rest : List Char) : Prop where
  text : cs = scheme ++ ':' :: '/' :: '/' :: rest
  first : ':' ∉ scheme

/-- There is one first colon. -/
theorem Opens.unique {scheme scheme' rest' : List Char} (h : Opens cs scheme rest)
    (h' : Opens cs scheme' rest') : scheme = scheme' ∧ rest = rest' := by
  have front {scheme rest : List Char} (h : Opens cs scheme rest) :
      cs.takeWhile (· != ':') = scheme := by
    rw [h.text, List.takeWhile_append_of_pos fun c within => ?_]
    · simp
    · have notColon : c ≠ ':' := fun same => h.first (same ▸ within)
      simpa using notColon
  have same : scheme = scheme' := (front h).symm.trans (front h')
  subst same
  have whole := h.text.symm.trans h'.text
  simpa using whole

/-- No scheme has a colon, whatever the case of its letters. -/
theorem colon_not_mem_of_map {letters start : List Char} (h : letters.map Char.toLower = start)
    (none' : ':' ∉ start) : ':' ∉ letters := by
  intro within
  have lower : Char.toLower ':' ∈ letters.map Char.toLower := List.mem_map_of_mem within
  rw [h] at lower
  exact none' lower

/-! ## The scheme -/

/-- What is no letter in lower case was none before. -/
theorem eq_of_toLower {c d : Char} (h : c.toLower = d) (noLetter : d.isAlpha = false) : c = d := by
  unfold Char.toLower at h
  split at h
  · next upper =>
    -- a capital becomes a small letter, which is a letter
    exfalso
    have isLower : d.isLower = true := by
      obtain ⟨low, high⟩ := upper
      subst h
      refine Bool.and_eq_true_iff.mpr ⟨decide_eq_true ?_, decide_eq_true ?_⟩
      all_goals
        simp only [ge_iff_le, UInt32.le_iff_toNat_le, UInt32.toNat_add] at low high ⊢
        have upperA : 'A'.val.toNat = 65 := rfl
        have upperZ : 'Z'.val.toNat = 90 := rfl
        have lowerA : 'a'.val.toNat = 97 := rfl
        have lowerZ : 'z'.val.toNat = 122 := rfl
        have between : ('a'.val - 'A'.val).toNat = 32 := rfl
        omega
    have isAlpha : d.isAlpha = true := Bool.or_eq_true_iff.mpr (.inr isLower)
    rw [isAlpha] at noLetter
    cases noLetter
  · exact h

/-- Characters that are a scheme and the marks behind it, in lower case. -/
theorem exists_letters_of_map {start : List Char}
    (h : cs.map Char.toLower = start ++ [':', '/', '/']) :
    ∃ letters, cs = letters ++ [':', '/', '/'] ∧ letters.map Char.toLower = start := by
  obtain ⟨letters, marks, rfl, lower, same⟩ := List.map_eq_append_iff.mp h
  refine ⟨letters, ?_, lower⟩
  -- the marks are no letters, so that they are written as they are
  obtain ⟨colon, marks, rfl, first, same⟩ := List.map_eq_cons_iff.mp same
  obtain ⟨slash, marks, rfl, second, same⟩ := List.map_eq_cons_iff.mp same
  obtain ⟨slash', marks, rfl, third, same⟩ := List.map_eq_cons_iff.mp same
  rw [List.map_eq_nil_iff.mp same, eq_of_toLower first rfl, eq_of_toLower second rfl,
    eq_of_toLower third rfl]

theorem dropStart?_eq_some_iff {start : List Char} :
    dropStart? (start ++ [':', '/', '/']) cs = some rest ↔
      ∃ letters, cs = letters ++ ':' :: '/' :: '/' :: rest ∧ letters.map Char.toLower = start := by
  unfold dropStart?
  constructor
  · intro h
    split at h
    · next lower =>
      obtain ⟨letters, front, lower⟩ := exists_letters_of_map lower
      have behind : cs.drop (start ++ [':', '/', '/']).length = rest := Option.some.inj h
      refine ⟨letters, ?_, lower⟩
      calc cs = cs.take (start ++ [':', '/', '/']).length
              ++ cs.drop (start ++ [':', '/', '/']).length := (List.take_append_drop _ _).symm
        _ = letters ++ ':' :: '/' :: '/' :: rest := by rw [front, behind, List.append_assoc]; rfl
    · cases h
  · rintro ⟨letters, rfl, rfl⟩
    have whole : letters ++ ':' :: '/' :: '/' :: rest = (letters ++ [':', '/', '/']) ++ rest := by
      simp
    have long : (letters.map Char.toLower ++ [':', '/', '/']).length
        = (letters ++ [':', '/', '/']).length := by simp
    rw [whole, long, List.take_left, List.drop_left, if_pos (by simp)]

/-- How a scheme is found: one of the two in letters of any case, or the characters in front of the marks as
they are written. -/
theorem takeScheme_cases {scheme : String} (h : takeScheme cs = .ok (.known scheme rest)) :
    (scheme = "http" ∧ dropStart? ['h', 't', 't', 'p', ':', '/', '/'] cs = some rest) ∨
    (scheme = "https" ∧ dropStart? ['h', 't', 't', 'p', 's', ':', '/', '/'] cs = some rest) ∨
    ((∀ rest, dropStart? ['h', 't', 't', 'p', ':', '/', '/'] cs ≠ some rest) ∧
      (∀ rest, dropStart? ['h', 't', 't', 'p', 's', ':', '/', '/'] cs ≠ some rest) ∧
      cs = scheme.toList ++ ':' :: '/' :: '/' :: rest) := by
  -- in the order in which the schemes are tried; any other is taken as it is written
  unfold takeScheme at h
  split at h
  · next rest' found =>
    cases h
    exact .inl ⟨rfl, found⟩
  · next notHttp =>
    split at h
    · next rest' found =>
      cases h
      exact .inr (.inl ⟨rfl, found⟩)
    · next notHttps =>
      refine .inr (.inr ⟨notHttp, notHttps, ?_⟩)
      simp only at h
      split at h
      · next rest' behind =>
        split at h
        · cases h
        · split at h
          · cases h
          · simp only [Except.ok.injEq, SchemePart.known.injEq] at h
            obtain ⟨rfl, rfl⟩ := h
            rw [String.toList_ofList, ← behind]
            exact List.prefix_iff_eq_append.mp (List.takeWhile_prefix isSchemeChar) |>.symm
      · cases h

/-- Which texts have one of the two schemes. -/
theorem takeScheme_web_iff {scheme : String} (web : scheme = "http" ∨ scheme = "https") :
    takeScheme cs = .ok (.known scheme rest) ↔
      ∃ letters, Opens cs letters rest ∧ letters.map Char.toLower = scheme.toList := by
  have http (rest : List Char) := @dropStart?_eq_some_iff cs rest ['h', 't', 't', 'p']
  have https (rest : List Char) := @dropStart?_eq_some_iff cs rest ['h', 't', 't', 'p', 's']
  simp only [List.cons_append, List.nil_append] at http https
  constructor
  · intro h
    rcases takeScheme_cases h with ⟨rfl, found⟩ | ⟨rfl, found⟩ | ⟨notHttp, notHttps, text⟩
    · obtain ⟨letters, text, lower⟩ := (http rest).mp found
      exact ⟨letters, ⟨text, colon_not_mem_of_map lower (by decide)⟩, lower⟩
    · obtain ⟨letters, text, lower⟩ := (https rest).mp found
      exact ⟨letters, ⟨text, colon_not_mem_of_map lower (by decide)⟩, lower⟩
    · -- a text with one of the two schemes would have been found before
      rcases web with rfl | rfl
      · exact absurd ((http _).mpr ⟨_, text, rfl⟩) (notHttp _)
      · exact absurd ((https _).mpr ⟨_, text, rfl⟩) (notHttps _)
  · rintro ⟨letters, opens, lower⟩
    unfold takeScheme
    rcases web with rfl | rfl
    · rw [(http rest).mpr ⟨letters, opens.text, lower⟩]
    · have notHttp : dropStart? ['h', 't', 't', 'p', ':', '/', '/'] cs = none := by
        rw [Option.eq_none_iff_forall_ne_some]
        intro rest' found
        obtain ⟨letters', text', lower'⟩ := (http rest').mp found
        have other : Opens cs letters' rest' := ⟨text', colon_not_mem_of_map lower' (by decide)⟩
        obtain ⟨same, -⟩ := opens.unique other
        rw [same, lower'] at lower
        exact absurd lower (by decide)
      rw [notHttp, (https rest).mpr ⟨letters, opens.text, lower⟩]

/-! ## The authority, and what follows it -/

theorem drop_length_takeWhile (p : Char → Bool) (cs : List Char) :
    cs.drop (cs.takeWhile p).length = cs.dropWhile p := by
  have whole : cs.takeWhile p ++ cs.dropWhile p = cs := List.takeWhile_append_dropWhile
  calc cs.drop (cs.takeWhile p).length
      = (cs.takeWhile p ++ cs.dropWhile p).drop (cs.takeWhile p).length := by rw [whole]
    _ = cs.dropWhile p := List.drop_left

theorem takeAuthority_eq_ok_iff {authority : List Char} :
    takeAuthority cs = .ok (authority, rest) ↔
      cs = authority ++ rest ∧ (∀ c ∈ authority, endsAuthority c = false) ∧
        (∀ c ∈ rest.head?, endsAuthority c = true) ∧
        ∃ scan, authority.foldlM AuthorityScan.step {} = .ok scan ∧ scan.isComplete = true := by
  constructor
  · intro h
    obtain ⟨scan, scanned, h⟩ := bind_eq_ok.mp h
    split at h
    · next complete =>
      cases h
      have whole := List.prefix_iff_eq_append.mp
        (List.takeWhile_prefix (fun c => !endsAuthority c) (l := cs))
      refine ⟨whole.symm, fun c within => ?_, fun c first => ?_, scan, scanned, complete⟩
      · simpa using List.mem_takeWhile_imp within
      · rw [drop_length_takeWhile] at first
        have stops := List.head?_dropWhile_not (fun c => !endsAuthority c) cs
        rw [Option.mem_def.mp first] at stops
        simpa using stops
    · cases h
  · rintro ⟨rfl, inside, ends, scan, scanned, complete⟩
    -- the authority ends where the first of its ends stands, which is in front of the rest
    have front : (authority ++ rest).takeWhile (fun c => !endsAuthority c) = authority := by
      rw [List.takeWhile_append_of_pos fun c within => by simp [inside c within]]
      cases rest with
      | nil => simp
      | cons c rest => simp [ends c rfl]
    rw [takeAuthority, front, scanned, List.drop_left]
    show (if scan.isComplete = true then _ else _) = _
    rw [if_pos complete]

/-- Neither mark may stand in a path. -/
theorem ne_mark_of_isPathChar {c : Char} (h : isPathChar c = true) : c ≠ '?' ∧ c ≠ '#' := by
  constructor
  · rintro rfl
    exact absurd h (by decide)
  · rintro rfl
    exact absurd h (by decide)

/-- Without a query there is a path, and a fragment that is passed over. -/
theorem pathAndQuery_eq_none_iff {path : String} :
    pathAndQuery cs = .ok (path, none) ↔
      ∃ fragment, cs = path.toList ++ fragment ∧ path.toList.all isPathChar = true ∧
        ∀ c ∈ fragment.head?, c = '#' := by
  constructor
  · intro h
    have valid : path.toList.all isPathChar = true := isPathText_of_pathAndQuery h
    unfold pathAndQuery at h
    simp only at h
    split at h
    · cases h
    · have whole := List.prefix_iff_eq_append.mp
        (List.takeWhile_prefix (fun c => c != '?' && c != '#') (l := cs))
      split at h
      · -- a question mark starts a query
        split at h <;> cases h
      · next noQuery =>
        cases h
        rw [String.toList_ofList] at valid ⊢
        refine ⟨_, whole.symm, valid, fun c first => ?_⟩
        -- with no question mark, the first mark is that of a fragment
        have stops := List.head?_dropWhile_not (fun c => c != '?' && c != '#') cs
        rw [drop_length_takeWhile] at noQuery first
        rw [Option.mem_def.mp first] at stops
        obtain ⟨rest, behind⟩ := List.head?_eq_some_iff.mp first
        have notQuery : c ≠ '?' := by
          rintro rfl
          exact noQuery rest behind
        simpa [notQuery] using stops
  · rintro ⟨fragment, rfl, valid, ends⟩
    have front : (path.toList ++ fragment).takeWhile (fun c => c != '?' && c != '#')
        = path.toList := by
      rw [List.takeWhile_append_of_pos fun c within => ?_]
      · cases fragment with
        | nil => simp
        | cons c rest => simp [ends c rfl]
      · have marks := ne_mark_of_isPathChar (List.all_eq_true.mp valid c within)
        simp [marks]
    rw [pathAndQuery]
    simp only [front, valid, List.drop_left, Bool.not_true, Bool.false_eq_true, ↓reduceIte,
      String.ofList_toList]
    cases fragment with
    | nil => rfl
    | cons c rest =>
      obtain rfl := ends c rfl
      rfl

/-! ## Whole addresses -/

/-- An identifier with a scheme is one that does not start with a slash. -/
theorem parseFull_of_parse {s scheme : String} {uri : Uri} (h : Uri.parse s = .ok uri)
    (known : uri.scheme = some scheme) :
    s.utf8ByteSize ≤ maxUriLength ∧ parseFull s.toList = .ok uri := by
  -- only a full address has a scheme: the shorter forms are excluded one by one
  unfold Uri.parse at h
  split at h
  · cases h
  · next short =>
    refine ⟨Nat.le_of_not_lt short, ?_⟩
    split at h
    · cases h
    · cases h
      cases known
    · cases h
      cases known
    · obtain ⟨⟨authority, rest⟩, -, h⟩ := bind_eq_ok.mp h
      simp only at h
      split at h
      · cases h
        cases known
      · cases h
    · obtain ⟨found, -, h⟩ := bind_eq_ok.mp h
      cases h
      cases known
    · exact h

/-- The identifiers that the panel takes, and what they are read as. -/
theorem parseFull_web_iff {scheme authority path : String} (web : scheme = "http" ∨ scheme = "https") :
    parseFull cs = .ok ⟨some scheme, some authority, path, none⟩ ↔
      ∃ p : Parts, p.IsWeb ∧ cs = p.chars ∧ p.scheme.map Char.toLower = scheme.toList ∧
        p.authority = authority.toList ∧ p.path = path.toList := by
  constructor
  · intro h
    obtain ⟨part, scheme', h⟩ := bind_eq_ok.mp h
    split at h
    · obtain ⟨⟨authority', rest⟩, -, h⟩ := bind_eq_ok.mp h
      simp only at h
      split at h <;> cases h
    · next known rest =>
      split at h
      · cases h
      · obtain ⟨⟨authority', behind⟩, taken, h⟩ := bind_eq_ok.mp h
        simp only at h
        split at h
        · cases h
        · next notEmpty =>
          obtain ⟨⟨path', query⟩, read, h⟩ := bind_eq_ok.mp h
          cases h
          -- scheme, authority and path have been read; each is one part of the text
          obtain ⟨letters, opens, lower⟩ := (takeScheme_web_iff web).mp scheme'
          obtain ⟨rfl, inside, ends, complete⟩ := takeAuthority_eq_ok_iff.mp taken
          obtain ⟨fragment, rfl, valid, mark⟩ := pathAndQuery_eq_none_iff.mp read
          refine ⟨⟨letters, authority', path'.toList, fragment⟩, ⟨?_, ⟨?_, inside, complete⟩, valid,
            ?_, mark⟩, opens.text, lower, ?_, rfl⟩
          · rw [lower]
            rcases web with rfl | rfl
            · exact .inl rfl
            · exact .inr rfl
          · simpa using notEmpty
          · -- what ends the authority and may stand in a path is a slash
            intro c first
            have end' := ends c (by rw [List.head?_append, Option.mem_def.mp first]; rfl)
            have marks := ne_mark_of_isPathChar
              (List.all_eq_true.mp valid c (List.mem_of_head? first))
            simpa [endsAuthority, marks.1, marks.2] using end'
          · rw [String.toList_ofList]
  · rintro ⟨⟨letters, authority', path', fragment⟩, parts, rfl, lower, rfl, rfl⟩
    have noColon : ':' ∉ scheme.toList := by rcases web with rfl | rfl <;> decide
    have scheme' : takeScheme (Parts.chars ⟨letters, authority.toList, path.toList, fragment⟩) =
        .ok (.known scheme (authority.toList ++ (path.toList ++ fragment))) :=
      (takeScheme_web_iff web).mpr ⟨letters, ⟨rfl, colon_not_mem_of_map lower noColon⟩, lower⟩
    have ends : ∀ c ∈ (path.toList ++ fragment).head?, endsAuthority c = true := by
      intro c first
      rw [Option.mem_def, List.head?_append, Option.or_eq_some_iff] at first
      rcases first with inPath | ⟨-, inFragment⟩
      · rw [parts.rooted c inPath]
        rfl
      · rw [parts.fragment c inFragment]
        rfl
    have taken := takeAuthority_eq_ok_iff.mpr
      ⟨rfl, parts.authority.inside, ends, parts.authority.complete⟩
    have read := pathAndQuery_eq_none_iff.mpr ⟨fragment, rfl, parts.path, parts.fragment⟩
    have some' : authority.toList ≠ [] := parts.authority.some'
    rw [parseFull, scheme']
    show (if _ then _ else _) = _
    rw [if_neg (by simp [some']), taken]
    show (if _ then _ else _) = _
    rw [if_neg (by simpa using some'), read]
    show Except.ok _ = _
    rw [String.ofList_toList]

/-- An address is accepted if its identifier has a known scheme, an authority, and no query. -/
theorem Base.parse_eq_ok_iff_uri :
    Base.parse address = .ok b ↔
      ∃ scheme authority path, (scheme = "http" ∨ scheme = "https") ∧
        Uri.parse (Text.trim address) = .ok ⟨some scheme, some authority, path, none⟩ ∧
        b = ⟨scheme, authority, dropSlashes path⟩ := by
  unfold Base.parse
  constructor
  · intro h
    -- the checks in their order: scheme and authority, http or https, no query
    split at h
    · cases h
    · next uri parsed =>
      obtain ⟨scheme, authority, path, query⟩ := uri
      split at h
      · cases h
      · split at h
        · cases h
        · split at h
          · cases h
          · next web =>
            split at h
            · cases h
            · next noQuery =>
              cases h
              simp only at *
              subst_vars
              refine ⟨_, _, path, ?_, ?_, rfl⟩
              · by_contra neither
                exact web (not_or.mp neither)
              · rw [parsed, Option.not_isSome_iff_eq_none.mp noQuery]
  · rintro ⟨scheme, authority, path, web, parsed, rfl⟩
    rw [parsed]
    simp only
    rw [if_neg fun neither => (not_or.mpr neither) web, if_neg (by simp)]

/-- What the parts of an address begin with: a letter, and more behind it. -/
theorem Parts.IsWeb.exists_letter {p : Parts} (h : p.IsWeb) :
    ∃ c d more, p.chars = c :: d :: more ∧ c ≠ '/' := by
  obtain ⟨start, lower⟩ : ∃ start, p.scheme.map Char.toLower = 'h' :: 't' :: start := by
    rcases h.scheme with lower | lower
    · exact ⟨_, lower⟩
    · exact ⟨_, lower⟩
  obtain ⟨c, more, scheme, first, lower⟩ := List.map_eq_cons_iff.mp lower
  obtain ⟨d, more, rfl, -, -⟩ := List.map_eq_cons_iff.mp lower
  refine ⟨c, d, _, by rw [Parts.chars, scheme]; rfl, ?_⟩
  rintro rfl
  exact absurd first (by decide)

theorem parse_of_letter {s : String} {c d : Char} {more : List Char}
    (text : s.toList = c :: d :: more) (noSlash : c ≠ '/') (short : s.utf8ByteSize ≤ maxUriLength) :
    Uri.parse s = parseFull s.toList := by
  unfold Uri.parse
  rw [if_neg (Nat.not_lt.mpr short)]
  split
  · next same => cases text.symm.trans same
  · next same => cases text.symm.trans same
  · next same => cases text.symm.trans same
  · next same => cases text.symm.trans same
  · next same =>
    cases text.symm.trans same
    exact absurd rfl noSlash
  · rfl

/-- **The texts of base addresses**: exactly the parts of an address, with blanks around them. -/
theorem Base.parse_eq_ok_iff :
    Base.parse address = .ok b ↔
      ∃ p : Parts, p.IsWeb ∧ trimChars address.toList = p.chars ∧
        (Text.trim address).utf8ByteSize ≤ maxUriLength ∧ b = p.base := by
  have trimmed : (Text.trim address).toList = trimChars address.toList := String.toList_ofList
  rw [Base.parse_eq_ok_iff_uri]
  constructor
  · rintro ⟨scheme, authority, path, web, parsed, rfl⟩
    obtain ⟨short, full⟩ := parseFull_of_parse parsed rfl
    obtain ⟨p, parts, text, lower, authority', path'⟩ := (parseFull_web_iff web).mp full
    refine ⟨p, parts, trimmed.symm.trans text, short, ?_⟩
    rw [Parts.base, lower, authority', path']
    simp only [String.ofList_toList]
  · rintro ⟨p, parts, text, short, rfl⟩
    have web : String.ofList (p.scheme.map Char.toLower) = "http" ∨
        String.ofList (p.scheme.map Char.toLower) = "https" := by
      rcases parts.scheme with lower | lower
      · exact .inl (by rw [lower])
      · exact .inr (by rw [lower])
    -- the text starts with a letter, so that it is read as a full address
    obtain ⟨c, d, more, letter, noSlash⟩ := parts.exists_letter
    refine ⟨_, String.ofList p.authority, String.ofList p.path, web, ?_, rfl⟩
    rw [parse_of_letter (trimmed.trans (text.trans letter)) noSlash short]
    exact (parseFull_web_iff web).mpr ⟨p, parts, trimmed.trans text, by simp⟩

/-- **An accepted text opens with a known scheme, and an authority stands behind it.** -/
theorem Base.opens_of_parse (h : Base.parse address = .ok b) :
    ∃ scheme rest, Opens (trimChars address.toList) scheme rest ∧
      scheme.map Char.toLower = b.scheme.toList ∧
      (b.scheme = "http" ∨ b.scheme = "https") ∧
      ∃ c ∈ rest.head?, endsAuthority c = false := by
  obtain ⟨p, parts, text, -, rfl⟩ := Base.parse_eq_ok_iff.mp h
  have noColon : ':' ∉ p.scheme := by
    rcases parts.scheme with lower | lower
    · exact colon_not_mem_of_map lower (by decide)
    · exact colon_not_mem_of_map lower (by decide)
  refine ⟨p.scheme, _, ⟨text, noColon⟩, by rw [Parts.base, String.toList_ofList], ?_, ?_⟩
  · rcases parts.scheme with lower | lower
    · exact .inl (by rw [Parts.base, lower])
    · exact .inr (by rw [Parts.base, lower])
  · obtain ⟨c, more, same⟩ := List.exists_cons_of_ne_nil parts.authority.some'
    refine ⟨c, by rw [same]; rfl, parts.authority.inside c ?_⟩
    rw [same]
    exact List.mem_cons_self

/-- Up to its fragment, an address has neither mark. -/
theorem Parts.IsWeb.unmarked {p : Parts} (h : p.IsWeb) :
    ∀ c ∈ p.scheme ++ ':' :: '/' :: '/' :: (p.authority ++ p.path), c ≠ '?' ∧ c ≠ '#' := by
  have scheme : ∀ c ∈ p.scheme, c ≠ '?' ∧ c ≠ '#' := by
    intro c within
    have lower : c.toLower ∈ p.scheme.map Char.toLower := List.mem_map_of_mem within
    constructor
    · rintro rfl
      rcases h.scheme with same | same <;> rw [same] at lower <;> exact absurd lower (by decide)
    · rintro rfl
      rcases h.scheme with same | same <;> rw [same] at lower <;> exact absurd lower (by decide)
  have authority : ∀ c ∈ p.authority, c ≠ '?' ∧ c ≠ '#' := by
    intro c within
    have inside := h.authority.inside c within
    simp only [endsAuthority, Bool.or_eq_false_iff, beq_eq_false_iff_ne] at inside
    exact ⟨inside.1.2, inside.2⟩
  have path : ∀ c ∈ p.path, c ≠ '?' ∧ c ≠ '#' := fun c within =>
    ne_mark_of_isPathChar (List.all_eq_true.mp h.path c within)
  intro c within
  simp only [List.mem_append, List.mem_cons] at within
  rcases within with inScheme | rfl | rfl | rfl | inAuthority | inPath
  · exact scheme c inScheme
  · decide
  · decide
  · decide
  · exact authority c inAuthority
  · exact path c inPath

/-- **In an accepted text a question mark can only stand in the fragment.** -/
theorem Base.number_sign_of_question_mark (h : Base.parse address = .ok b)
    {before after : List Char} (text : address.toList = before ++ '?' :: after) : '#' ∈ before := by
  obtain ⟨p, parts, trimmed, -, -⟩ := Base.parse_eq_ok_iff.mp h
  obtain ⟨⟨left, right, blankLeft, blankRight, whole⟩, -⟩ := Text.trimChars_eq_iff.mp trimmed
  have notBlank : ∀ c, isBlank c = true → c ≠ '?' := by
    rintro c blank rfl
    exact absurd blank (by decide)
  have unmarked : '?' ∉ left ++ (p.scheme ++ ':' :: '/' :: '/' :: (p.authority ++ p.path)) := by
    intro within
    rcases List.mem_append.mp within with inLeft | inParts
    · exact notBlank _ (blankLeft _ inLeft) rfl
    · exact (parts.unmarked _ inParts).1 rfl
  have cut : (left ++ (p.scheme ++ ':' :: '/' :: '/' :: (p.authority ++ p.path)))
      ++ (p.fragment ++ right) = before ++ '?' :: after := by
    rw [← text, whole, Parts.chars]
    simp
  cases fragment : p.fragment with
  | nil =>
    -- without a fragment there is no question mark at all
    exfalso
    have somewhere : '?' ∈ before ++ '?' :: after := by simp
    rw [← cut, fragment, List.nil_append] at somewhere
    rcases List.mem_append.mp somewhere with inParts | inRight
    · exact unmarked inParts
    · exact notBlank _ (blankRight _ inRight) rfl
  | cons c more =>
    obtain rfl : c = '#' := parts.fragment c (by rw [fragment]; rfl)
    rw [fragment] at cut
    rcases List.append_eq_append_iff.mp cut with ⟨between, rfl, behind⟩ | ⟨between, front, behind⟩
    · -- the number sign stands in front of the question mark
      refine List.mem_append_right _ ?_
      cases between with
      | nil => cases behind
      | cons c between =>
        obtain ⟨rfl, -⟩ := List.cons.inj behind
        exact List.mem_cons_self
    · exfalso
      cases between with
      | nil => cases behind
      | cons c between =>
        obtain ⟨rfl, -⟩ := List.cons.inj behind
        exact unmarked (by rw [front]; simp)

end AdminPanel.Address
