import RoutePattern.Proofs.NormalPath

/-!
# URLs and their parts

The parts of a URL are well formed if no part holds a delimiter that would end it, and the path does
not start with what would be read as an authority or as a scheme. Every URL is made up of one row of
well-formed parts and of no other one, and these are the parts that are read from it
(`read_eq_iff`).
-/
namespace RoutePattern

/-- A text starts with characters of a class, as many as possible. -/
theorem Text.exists_span (accepts : Char → Bool) (text : Text) :
    ∃ front rest, text = front ++ rest ∧ (∀ c ∈ front, accepts c = true) ∧
      (∀ c ∈ rest.head?, accepts c = false) ∧ text.span accepts = (front, rest) := by
  refine ⟨text.takeWhile accepts, text.dropWhile accepts, List.takeWhile_append_dropWhile.symm,
    fun c found => List.mem_takeWhile_imp found, fun c found => ?_,
    List.span_eq_takeWhile_dropWhile ..⟩
  have stopped := List.head?_dropWhile_not accepts text
  rw [Option.mem_def.1 found] at stopped
  simpa using stopped

namespace Parts

/-- A part behind its delimiter; a part that is missing has no delimiter either. -/
def led (delimiter : Text) : Option Text → Text
  | none => []
  | some part => delimiter ++ part

/-- A scheme with its colon. -/
def ledOut : Option Text → Text
  | none => []
  | some scheme => scheme ++ [':']

/-- The URL that parts make up. -/
def text (parts : Parts) : Text :=
  ledOut parts.scheme ++ (led ['/', '/'] parts.authority ++
    (parts.path ++ (led ['?'] parts.query ++ led ['#'] parts.fragment)))

/-- Parts that are told apart when they stand one after the other. -/
structure IsFormed (parts : Parts) : Prop where
  scheme : ∀ scheme ∈ parts.scheme, scheme ≠ [] ∧ ∀ c ∈ scheme, c ∉ [':', '/', '?', '#']
  authority : ∀ authority ∈ parts.authority, ∀ c ∈ authority, c ∉ ['/', '?', '#']
  path : ∀ c ∈ parts.path, c ∉ ['?', '#']
  query : ∀ query ∈ parts.query, '#' ∉ query
  /-- An authority ends where its path starts. -/
  rooted : parts.authority.isSome = true → parts.path = [] ∨ parts.path.head? = some '/'
  /-- Two slashes start an authority. -/
  single : parts.authority = none → ¬ ['/', '/'] <+: parts.path
  /-- What comes before a first colon is a scheme, unless it holds a slash. -/
  schemeless : parts.scheme = none → parts.authority = none →
    ∀ front : Text, front ≠ [] → (∀ c ∈ front, c ≠ ':' ∧ c ≠ '/') → ¬ front ++ [':'] <+: parts.path

/-! ## The scheme -/

/-- The characters of a scheme. -/
theorem inScheme_iff {c : Char} : inScheme c = true ↔ c ∉ [':', '/', '?', '#'] := by
  simp only [inScheme, List.contains_eq_mem, Bool.not_eq_true', decide_eq_false_iff_not,
    List.mem_cons, List.not_mem_nil, or_false]
  tauto

/-- A text starts with a scheme and its colon. -/
def LeadsScheme (url : Text) : Prop :=
  ∃ scheme : Text, scheme ≠ [] ∧ (∀ c ∈ scheme, inScheme c = true) ∧ scheme ++ [':'] <+: url

/-- A scheme is read up to its colon. -/
theorem readScheme_some {scheme : Text} (given : scheme ≠ [])
    (inside : ∀ c ∈ scheme, inScheme c = true) (rest : Text) :
    readScheme (scheme ++ [':'] ++ rest) = (some scheme, rest) := by
  have colon : ∀ c ∈ (':' :: rest).head?, inScheme c = false := by
    intro c found
    obtain rfl := Option.some.inj found
    decide
  obtain ⟨c, scheme, rfl⟩ := List.exists_cons_of_ne_nil given
  rw [List.append_assoc, List.singleton_append, readScheme, Text.span_append inside colon]
  rfl

/-- Without a scheme nothing is read. -/
theorem readScheme_none {url : Text} (missing : ¬ LeadsScheme url) :
    readScheme url = (none, url) := by
  obtain ⟨front, rest, cut, inside, -, spanned⟩ := Text.exists_span inScheme url
  rw [readScheme, spanned]
  split
  · next rest same =>
    obtain ⟨rfl, rfl⟩ := Prod.mk.inj same
    exact absurd ⟨_, List.cons_ne_nil _ _, inside, rest, by simp [cut]⟩ missing
  · rfl

/-- A URL starts with the scheme that is read from it and its colon. -/
theorem exists_scheme (url : Text) : ∃ scheme rest, readScheme url = (scheme, rest) ∧
    url = ledOut scheme ++ rest ∧
    (∀ text ∈ scheme, text ≠ [] ∧ ∀ c ∈ text, inScheme c = true) ∧
    (scheme = none → ¬ LeadsScheme url) := by
  by_cases leads : LeadsScheme url
  · obtain ⟨scheme, given, inside, rest, rfl⟩ := leads
    refine ⟨some scheme, rest, readScheme_some given inside rest, rfl, ?_, by simp⟩
    intro text same
    obtain rfl := Option.some.inj same
    exact ⟨given, inside⟩
  · exact ⟨none, url, readScheme_none leads, rfl, by simp, fun _ => leads⟩

/-! ## The authority -/

/-- The characters of an authority. -/
theorem inAuthority_iff {c : Char} : inAuthority c = true ↔ c ∉ ['/', '?', '#'] := by
  simp [inAuthority]

/-- An authority is read up to the first character that it may not hold. -/
theorem readAuthority_some {authority rest : Text}
    (inside : ∀ c ∈ authority, inAuthority c = true)
    (stop : ∀ c ∈ rest.head?, inAuthority c = false) :
    readAuthority (['/', '/'] ++ authority ++ rest) = (some authority, rest) := by
  have both : ['/', '/'] ++ authority ++ rest = '/' :: '/' :: (authority ++ rest) := rfl
  rw [both, readAuthority, Text.span_append inside stop]

/-- Without two slashes nothing is read. -/
theorem readAuthority_none {url : Text} (single : ¬ ['/', '/'] <+: url) :
    readAuthority url = (none, url) := by
  rw [readAuthority]
  rintro rest rfl
  exact single ⟨rest, rfl⟩

/-- What follows the scheme starts with the authority that is read from it. -/
theorem exists_authority (url : Text) : ∃ authority rest, readAuthority url = (authority, rest) ∧
    url = led ['/', '/'] authority ++ rest ∧
    (∀ text ∈ authority, ∀ c ∈ text, inAuthority c = true) ∧
    (authority.isSome = true → ∀ c ∈ rest.head?, inAuthority c = false) ∧
    (authority = none → ¬ ['/', '/'] <+: url) := by
  by_cases double : ['/', '/'] <+: url
  · obtain ⟨more, rfl⟩ := double
    obtain ⟨authority, rest, rfl, inside, stop, -⟩ := Text.exists_span inAuthority more
    rw [← List.append_assoc]
    refine ⟨some authority, rest, readAuthority_some inside stop, rfl, ?_, fun _ => stop, by simp⟩
    intro text same
    obtain rfl := Option.some.inj same
    exact inside
  · exact ⟨none, url, readAuthority_none double, rfl, by simp, by simp, fun _ => double⟩

/-! ## Path, query and fragment -/

/-- The characters of a path. -/
theorem inPath_iff {c : Char} : inPath c = true ↔ c ∉ ['?', '#'] := by
  simp [inPath]

/-- A fragment is read behind its number sign. -/
theorem readFragment_led (fragment : Option Text) :
    readFragment (led ['#'] fragment) = fragment := by
  cases fragment with
  | none => rfl
  | some fragment => rfl

/-- A query is read up to the number sign of a fragment. -/
theorem readQuery_led {query : Option Text} (free : ∀ text ∈ query, '#' ∉ text)
    (fragment : Option Text) :
    readQuery (led ['?'] query ++ led ['#'] fragment) = (query, led ['#'] fragment) := by
  cases query with
  | none =>
    cases fragment with
    | none => rfl
    | some fragment => rfl
  | some query =>
    have inside : ∀ c ∈ query, (c != '#') = true := Text.forall_bne_iff.2 (free query rfl)
    have stop : ∀ c ∈ (led ['#'] fragment).head?, (c != '#') = false := by
      intro c found
      cases fragment with
      | none => exact absurd found (by simp [led])
      | some fragment =>
        obtain rfl := Option.some.inj found
        rfl
    have marked : led ['?'] (some query) ++ led ['#'] fragment =
      '?' :: (query ++ led ['#'] fragment) := rfl
    rw [marked, readQuery, Text.span_append inside stop]

/-- A query or a fragment starts with a character that a path may not hold. -/
theorem head?_tail (query fragment : Option Text) :
    ∀ c ∈ (led ['?'] query ++ led ['#'] fragment).head?, inPath c = false := by
  intro c found
  cases query with
  | some query =>
    obtain rfl := Option.some.inj found
    decide
  | none =>
    cases fragment with
    | some fragment =>
      obtain rfl := Option.some.inj found
      decide
    | none => exact absurd found (by simp [led])

/-- What follows a path is a query, if a question mark comes first, and a fragment. -/
theorem exists_tail {rest : Text} (stop : ∀ c ∈ rest.head?, inPath c = false) :
    ∃ query fragment, rest = led ['?'] query ++ led ['#'] fragment ∧
      ∀ text ∈ query, '#' ∉ text := by
  cases rest with
  | nil => exact ⟨none, none, rfl, by simp⟩
  | cons c rest =>
    have delimiter : c = '?' ∨ c = '#' := by
      have outside := stop c rfl
      rw [← Bool.not_eq_true, inPath_iff, not_not] at outside
      simpa using outside
    rcases delimiter with rfl | rfl
    · obtain ⟨query, after, rfl, inside, ends, -⟩ := Text.exists_span (· != '#') rest
      have free : ∀ text ∈ some query, '#' ∉ text := by
        intro text same found
        obtain rfl := Option.some.inj same
        exact Text.forall_bne_iff.1 inside found
      cases after with
      | nil => exact ⟨some query, none, rfl, free⟩
      | cons d after =>
        obtain rfl : d = '#' := by simpa using ends d rfl
        exact ⟨some query, some after, rfl, free⟩
    · exact ⟨none, some rest, rfl, by simp⟩

/-! ## All parts -/

/-- A row of characters of a path is in front of a path with what follows it only if it is in front
of the path. -/
theorem prefix_of_prefix_append {front path rest : Text} (inside : ∀ c ∈ front, inPath c = true)
    (stop : ∀ c ∈ rest.head?, inPath c = false) (leads : front <+: path ++ rest) :
    front <+: path := by
  obtain ⟨more, same⟩ := leads
  rcases List.append_eq_append_iff.1 same with ⟨later, rfl, -⟩ | ⟨later, rfl, tail⟩
  · exact List.prefix_append ..
  · cases later with
    | nil => simp
    | cons c later =>
      have inner := inside c (by simp)
      rw [stop c (by simp [tail])] at inner
      exact absurd inner (by decide)

section Formed

variable {parts : Parts} (formed : parts.IsFormed)

include formed

/-- The text behind the path of well-formed parts does not start with a scheme. -/
theorem IsFormed.not_leadsScheme (missing : parts.scheme = none) :
    ¬ LeadsScheme (led ['/', '/'] parts.authority ++
      (parts.path ++ (led ['?'] parts.query ++ led ['#'] parts.fragment))) := by
  rintro ⟨scheme, given, inside, leads⟩
  have apart : ∀ c ∈ scheme, c ≠ ':' ∧ c ≠ '/' ∧ inPath c = true := by
    intro c found
    have outside := inScheme_iff.1 (inside c found)
    simp only [List.mem_cons, List.not_mem_nil, or_false, not_or] at outside
    refine ⟨outside.1, outside.2.1, inPath_iff.2 ?_⟩
    simp [outside]
  cases owner : parts.authority with
  | some authority =>
    rw [owner] at leads
    obtain ⟨c, scheme, rfl⟩ := List.exists_cons_of_ne_nil given
    obtain ⟨more, same⟩ := leads
    exact (apart c (List.mem_cons_self ..)).2.1 (List.cons.inj same).1
  | none =>
    rw [owner] at leads
    have inner : ∀ c ∈ scheme ++ [':'], inPath c = true := by
      intro c found
      rcases List.mem_append.1 found with found | colon
      · exact (apart c found).2.2
      · rw [List.mem_singleton.1 colon]
        decide
    have front := prefix_of_prefix_append inner (head?_tail _ _) leads
    exact formed.schemeless missing owner scheme given
      (fun c found => ⟨(apart c found).1, (apart c found).2.1⟩) front

/-- The scheme of well-formed parts is read. -/
theorem IsFormed.readScheme_eq : readScheme parts.text =
    (parts.scheme, led ['/', '/'] parts.authority ++
      (parts.path ++ (led ['?'] parts.query ++ led ['#'] parts.fragment))) := by
  cases scheme : parts.scheme with
  | none =>
    rw [text, scheme]
    exact readScheme_none (formed.not_leadsScheme scheme)
  | some front =>
    obtain ⟨given, outside⟩ := formed.scheme front scheme
    rw [text, scheme]
    exact readScheme_some given (fun c found => inScheme_iff.2 (outside c found)) _

/-- The authority of well-formed parts is read. -/
theorem IsFormed.readAuthority_eq : readAuthority (led ['/', '/'] parts.authority ++
      (parts.path ++ (led ['?'] parts.query ++ led ['#'] parts.fragment))) =
    (parts.authority, parts.path ++ (led ['?'] parts.query ++ led ['#'] parts.fragment)) := by
  have ending := head?_tail parts.query parts.fragment
  cases owner : parts.authority with
  | none =>
    refine readAuthority_none fun double => formed.single owner ?_
    exact prefix_of_prefix_append (Text.forall_mem_iff_all.2 (by decide)) ending double
  | some authority =>
    have inside : ∀ c ∈ authority, inAuthority c = true := fun c found =>
      inAuthority_iff.2 (formed.authority authority owner c found)
    refine readAuthority_some inside fun c found => ?_
    rcases formed.rooted (by rw [owner]; rfl) with empty | slash
    · rw [empty] at found
      have outside := ending c found
      rw [← Bool.not_eq_true, inPath_iff, not_not] at outside
      rw [← Bool.not_eq_true, inAuthority_iff, not_not]
      exact List.mem_cons_of_mem _ outside
    · rw [List.head?_append, slash] at found
      obtain rfl := Option.some.inj found
      decide

/-- Well-formed parts are read from the URL that they make up. -/
theorem IsFormed.read_text : read parts.text = parts := by
  have inside : ∀ c ∈ parts.path, inPath c = true := fun c found => inPath_iff.2 (formed.path c found)
  have path := Text.span_append inside (head?_tail parts.query parts.fragment)
  simp only [read, formed.readScheme_eq, formed.readAuthority_eq, path,
    readQuery_led formed.query, readFragment_led]

end Formed

/-- The parts that are read from a URL are well formed and make up the URL. -/
theorem formed_read (url : Text) : (read url).IsFormed ∧ (read url).text = url := by
  obtain ⟨scheme, owned, schemeRead, rfl, schemed, schemeless⟩ := exists_scheme url
  obtain ⟨authority, pathed, authorityRead, rfl, authorized, stopped, single⟩ :=
    exists_authority owned
  obtain ⟨path, tail, rfl, inside, stop, pathRead⟩ := Text.exists_span inPath pathed
  obtain ⟨query, fragment, rfl, queried⟩ := exists_tail stop
  have parts : read (ledOut scheme ++ (led ['/', '/'] authority ++
      (path ++ (led ['?'] query ++ led ['#'] fragment)))) =
      ⟨scheme, authority, path, query, fragment⟩ := by
    simp only [read, schemeRead, authorityRead, pathRead, readQuery_led queried, readFragment_led]
  rw [parts]
  refine ⟨⟨?_, ?_, ?_, queried, ?_, ?_, ?_⟩, rfl⟩
  · intro text same
    obtain ⟨given, inner⟩ := schemed text same
    exact ⟨given, fun c found => inScheme_iff.1 (inner c found)⟩
  · exact fun text same c found => inAuthority_iff.1 (authorized text same c found)
  · exact fun c found => inPath_iff.1 (inside c found)
  · intro owner
    cases path with
    | nil => exact .inl rfl
    | cons c path =>
      have outside := stopped owner c rfl
      have inner := inPath_iff.1 (inside c (List.mem_cons_self ..))
      rw [← Bool.not_eq_true, inAuthority_iff, not_not, List.mem_cons] at outside
      exact .inr (congrArg some (outside.resolve_right inner))
  · rintro rfl double
    exact single rfl (double.trans (List.prefix_append ..))
  -- A path without scheme and authority holds no colon that could be read as the end of a scheme.
  · rintro rfl rfl front given apart leads
    refine schemeless rfl ⟨front, given, fun c found => inScheme_iff.2 ?_, ?_⟩
    · have inner := inPath_iff.1 (inside c (leads.subset (List.mem_append_left _ found)))
      simp only [List.mem_cons, List.not_mem_nil, or_false, not_or] at inner ⊢
      exact ⟨(apart c found).1, (apart c found).2, inner.1, inner.2⟩
    · exact leads.trans (List.prefix_append ..)

/-- The parts that are read from a URL are the only well-formed ones that make it up. -/
theorem read_eq_iff {url : Text} {parts : Parts} :
    read url = parts ↔ parts.IsFormed ∧ parts.text = url := by
  constructor
  · rintro rfl
    exact formed_read url
  · rintro ⟨formed, rfl⟩
    exact formed.read_text

end Parts

end RoutePattern
