import RoutePattern.Proofs.Url.Record

/-!
# URLs put together again

The record of a URL puts the URL together again, with the scheme and the host in lower case and the
query in front of the fragment. Reading this text gives the same record exactly if the query holds no
number sign (`read_href_eq_iff`). A query of its own never holds one; a query that was taken out of
the fragment may, and then it ends there when it is read again. What stands before the query is the
same in both records.
-/
namespace RoutePattern

namespace UrlRecord

/-! ## The authority, written again -/

/-- The delimiters of a URL have no case. -/
theorem isCaseless_delimiter {c : Char} (delimiter : c ∈ [':', '/', '?', '#', '@']) :
    Text.IsCaseless c := by
  have ascii : ∀ c ∈ [':', '/', '?', '#', '@'], c.toNat < 128 := Text.forall_mem_iff_all.2 (by decide)
  have caseless : ∀ c ∈ [':', '/', '?', '#', '@'], Unicode.hasCase c.toNat = false :=
    Text.forall_mem_iff_all.2 (by decide +kernel)
  exact ⟨ascii c delimiter, caseless c delimiter⟩

/-- A character without case stands in the authority that is written again exactly if it stands in
the authority. -/
theorem mem_written_iff {c : Char} (caseless : Text.IsCaseless c) {authority : Text} :
    c ∈ (readAuthority authority).2.2 ↔ c ∈ authority := by
  rcases authority_cases authority with free | ⟨auth, host, rfl, first, second⟩ | several
  · rw [readAuthority_host free]
    exact Text.mem_lower_iff caseless
  · rw [readAuthority_signed first second]
    simp only [List.mem_append, List.mem_cons, Text.mem_lower_iff caseless]
  · rw [readAuthority_several several]
    exact Text.mem_lower_iff caseless

/-- The authority that is written again is read as the same. -/
theorem readAuthority_written (authority : Text) :
    readAuthority (readAuthority authority).2.2 = readAuthority authority := by
  have sign : Text.IsCaseless '@' := isCaseless_delimiter (by decide)
  rcases authority_cases authority with free | ⟨auth, host, rfl, first, second⟩ | several
  · rw [readAuthority_host free, readAuthority_host (mt (Text.mem_lower_iff sign).1 free),
      Text.lower_lower]
  · rw [readAuthority_signed first second,
      readAuthority_signed first (mt (Text.mem_lower_iff sign).1 second), Text.lower_lower]
  · have again : 1 < (Text.lower authority).count '@' := by
      rw [Text.count_lower sign]
      exact several
    rw [readAuthority_several several, readAuthority_several again, Text.lower_lower]

/-! ## The query and the fragment, written again -/

/-- The search part of a record is a query behind its question mark, and with the query in front the
fragment gives up nothing more. -/
theorem exists_shown (query : Option Text) (fragment : Text) : ∃ shown rest,
    readSearch query fragment = (Parts.led ['?'] shown, shown.getD [], rest) ∧
      readSearch shown rest = readSearch query fragment := by
  cases query with
  | some query => exact ⟨some query, fragment, rfl, rfl⟩
  | none =>
    by_cases marked : '?' ∈ fragment
    · obtain ⟨front, query, rfl, free⟩ := List.eq_append_cons_of_mem marked
      have read := readSearch_donated free query
      exact ⟨some query, front, read, read.symm⟩
    · exact ⟨none, fragment, readSearch_plain marked, rfl⟩

/-- A text that is left out if it is empty. -/
def nonempty (text : Text) : Option Text := if text.isEmpty then none else some text

/-- Leaving out an empty text leaves it empty. -/
theorem getD_nonempty (text : Text) : (nonempty text).getD [] = text := by
  cases text with
  | nil => rfl
  | cons c rest => rfl

end UrlRecord

namespace Parts

/-- Parts with the scheme and the host in lower case. -/
def lowered (parts : Parts) : Parts :=
  { parts with
    scheme := parts.scheme.map Text.lower
    authority := parts.authority.map fun authority => (UrlRecord.readAuthority authority).2.2 }

variable {parts : Parts}

/-- Lower case keeps parts well formed. -/
theorem IsFormed.lowered (formed : parts.IsFormed) : parts.lowered.IsFormed where
  scheme scheme same := by
    obtain ⟨written, given, rfl⟩ := Option.map_eq_some_iff.1 same
    obtain ⟨nonempty, apart⟩ := formed.scheme written given
    refine ⟨mt Text.lower_eq_nil_iff.1 nonempty, fun c found delimiter => ?_⟩
    have caseless := UrlRecord.isCaseless_delimiter (List.mem_append_left ['@'] delimiter)
    exact apart c ((Text.mem_lower_iff caseless).1 found) delimiter
  authority authority same := by
    obtain ⟨written, given, rfl⟩ := Option.map_eq_some_iff.1 same
    intro c found delimiter
    have caseless := UrlRecord.isCaseless_delimiter
      (List.mem_cons_of_mem ':' (List.mem_append_left ['@'] delimiter))
    exact formed.authority written given c ((UrlRecord.mem_written_iff caseless).1 found) delimiter
  path := formed.path
  query := formed.query
  rooted owner := formed.rooted (by simpa [Parts.lowered] using owner)
  single missing := formed.single (Option.map_eq_none_iff.1 missing)
  schemeless missing owner :=
    formed.schemeless (Option.map_eq_none_iff.1 missing) (Option.map_eq_none_iff.1 owner)

/-- Parts with another query and another fragment. -/
def withTail (parts : Parts) (query fragment : Option Text) : Parts :=
  { parts with query := query, fragment := fragment }

/-- Another query and another fragment keep parts well formed. -/
theorem IsFormed.withTail (formed : parts.IsFormed) {query : Option Text}
    (free : ∀ text ∈ query, '#' ∉ text) (fragment : Option Text) :
    (parts.withTail query fragment).IsFormed :=
  ⟨formed.scheme, formed.authority, formed.path, free, formed.rooted, formed.single,
    formed.schemeless⟩

/-- A number sign in a query starts a fragment, which goes on with the fragment of the parts. -/
theorem text_withTail_cut {query : Text} (cut : '#' ∈ query) (fragment : Option Text) :
    (parts.withTail (some query) fragment).text =
      (parts.withTail (some (query.before '#'))
        (some (query.after '#' ++ led ['#'] fragment))).text := by
  have tail : query ++ led ['#'] fragment =
      query.before '#' ++ '#' :: (query.after '#' ++ led ['#'] fragment) := by
    rw [← List.cons_append, ← List.append_assoc, Text.before_append_after cut]
  simp only [withTail, text, led, List.cons_append, List.nil_append] at tail ⊢
  rw [tail]

end Parts

namespace UrlRecord

/-! ## The record of the URL that was put together again -/

section Again

variable (url : Text) {parts : Parts} {shown : Option Text} {rest : Text}

/-- The record of a URL puts together its parts in lower case, with the query in front of the
fragment. -/
theorem href_ofParts (formed : parts.IsFormed)
    (search : readSearch parts.query (parts.fragment.getD []) =
      (Parts.led ['?'] shown, shown.getD [], rest)) :
    (ofParts url parts).href = (parts.lowered.withTail shown (nonempty rest)).text := by
  have scheme : (if (Text.lower (parts.scheme.getD [])).isEmpty then []
      else Text.lower (parts.scheme.getD []) ++ [':']) =
      Parts.ledOut (parts.scheme.map Text.lower) := by
    cases present : parts.scheme with
    | none => rfl
    | some scheme =>
      have given := mt Text.lower_eq_nil_iff.1 (formed.scheme scheme present).1
      exact if_neg (by simpa using given)
  have authority : (if parts.authority.isSome then ['/', '/'] else []) ++
      (readAuthority (parts.authority.getD [])).2.2 =
      Parts.led ['/', '/'] (parts.authority.map fun authority => (readAuthority authority).2.2) := by
    cases parts.authority with
    | none => rfl
    | some authority => rfl
  have fragment : (if rest.isEmpty then [] else '#' :: rest) = Parts.led ['#'] (nonempty rest) := by
    cases rest with
    | nil => rfl
    | cons c rest => rfl
  simp only [Parts.text, Parts.withTail, Parts.lowered, ← authority, ← fragment, ← scheme, ofParts,
    search, List.append_assoc]

/-- A URL that was put together again has its parts in lower case. Its query ends at the first
number sign; without one, its fragment is what the query has left. -/
theorem exists_read_href (formed : parts.IsFormed)
    (search : readSearch parts.query (parts.fragment.getD []) =
      (Parts.led ['?'] shown, shown.getD [], rest)) :
    ∃ fragment, Parts.read (ofParts url parts).href =
        parts.lowered.withTail (shown.map (Text.before '#')) fragment ∧
      ('#' ∉ shown.getD [] → fragment = nonempty rest) := by
  have href := href_ofParts url formed search
  have free : ∀ text ∈ shown.map (Text.before '#'), '#' ∉ text := by
    intro text found
    obtain ⟨query, -, rfl⟩ := Option.map_eq_some_iff.1 found
    exact Text.not_mem_before '#' query
  cases shown with
  | none => exact ⟨_, by rw [href]; exact (formed.lowered.withTail free _).read_text, fun _ => rfl⟩
  | some query =>
    by_cases cut : '#' ∈ query
    · rw [Parts.text_withTail_cut cut] at href
      exact ⟨_, by rw [href]; exact (formed.lowered.withTail free _).read_text,
        fun whole => absurd cut whole⟩
    · have whole : (some query).map (Text.before '#') = some query :=
        congrArg some (Text.before_eq_self_iff.2 cut)
      rw [whole] at free ⊢
      exact ⟨_, by rw [href]; exact (formed.lowered.withTail free _).read_text, fun _ => rfl⟩

/-- The scheme in lower case is its own lower case. -/
theorem lower_scheme_lowered (parts : Parts) :
    Text.lower (parts.lowered.scheme.getD []) = Text.lower (parts.scheme.getD []) := by
  rw [Parts.lowered]
  cases parts.scheme with
  | none => rfl
  | some scheme => exact Text.lower_lower scheme

/-- The authority that is written again is read as the same, also if there is none. -/
theorem readAuthority_lowered (parts : Parts) : readAuthority (parts.lowered.authority.getD []) =
    readAuthority (parts.authority.getD []) := by
  rw [Parts.lowered]
  cases parts.authority with
  | none => rfl
  | some authority => exact readAuthority_written authority

/-- Lower case changes nothing in the record up to the path. -/
theorem ofParts_lowered (parts : Parts) (given : Text) (query fragment : Option Text) :
    (ofParts given (parts.lowered.withTail query fragment)).rootUrl = (ofParts url parts).rootUrl ∧
      (ofParts given (parts.lowered.withTail query fragment)).pathname =
        (ofParts url parts).pathname := by
  have scheme := lower_scheme_lowered parts
  have authority := readAuthority_lowered parts
  have slashes : parts.lowered.authority.isSome = parts.authority.isSome := Option.isSome_map ..
  refine ⟨?_, rfl⟩
  simp only [ofParts, Parts.withTail, scheme, authority, slashes]

/-- Lower case changes nothing in the record if the query and the fragment are read alike. -/
theorem ofParts_lowered_eq (given : Text)
    (search : readSearch parts.query (parts.fragment.getD []) = readSearch shown rest) :
    { ofParts given (parts.lowered.withTail shown (nonempty rest)) with givenUrl := url } =
      ofParts url parts := by
  have scheme := lower_scheme_lowered parts
  have authority := readAuthority_lowered parts
  have slashes : parts.lowered.authority.isSome = parts.authority.isSome := Option.isSome_map ..
  simp only [ofParts, Parts.withTail, scheme, authority, slashes, getD_nonempty, search]
  rfl

end Again

/-- A URL that is put together again has the same record exactly if the query holds no number
sign. In any case it has the same root and the same path, and its query goes up to the first number
sign. -/
theorem read_href_eq_iff (url : Text) :
    ({ read (read url).href with givenUrl := url } = read url ↔ '#' ∉ (read url).query) ∧
      (read (read url).href).rootUrl = (read url).rootUrl ∧
      (read (read url).href).pathname = (read url).pathname ∧
      (read (read url).href).query = (read url).query.before '#' := by
  have formed := (Parts.formed_read url).1
  rw [read_eq_ofParts url, read_eq_ofParts]
  generalize Parts.read url = parts at formed
  obtain ⟨shown, rest, search, again⟩ := exists_shown parts.query (parts.fragment.getD [])
  obtain ⟨fragment, read, left⟩ := exists_read_href url formed search
  have query : (ofParts url parts).query = shown.getD [] := (ofParts_search search).2.1
  obtain ⟨root, path⟩ := ofParts_lowered url parts (ofParts url parts).href
    (shown.map (Text.before '#')) fragment
  rw [read, query]
  by_cases cut : '#' ∈ shown.getD []
  · cases shown with
    | none => exact absurd cut List.not_mem_nil
    | some shown =>
      have ended : (ofParts (ofParts url parts).href (parts.lowered.withTail
          ((some shown).map (Text.before '#')) fragment)).query = shown.before '#' := rfl
      refine ⟨iff_of_false (fun same => ?_) (not_not.2 cut), root, path, ended⟩
      have whole := (congrArg UrlRecord.query same).trans query
      exact Text.before_eq_self_iff.1 (ended.symm.trans whole) cut
  · have whole : shown.map (Text.before '#') = shown := by
      cases shown with
      | none => rfl
      | some shown => exact congrArg some (Text.before_eq_self_iff.2 cut)
    have same := ofParts_lowered_eq url (ofParts url parts).href again.symm
    rw [left cut, whole] at root path ⊢
    refine ⟨iff_of_true same cut, root, path, ?_⟩
    rw [Text.before_eq_self_iff.2 cut]
    exact (congrArg UrlRecord.query same).trans query

-- The query of the fragment holds a number sign, which ends it in the URL that is put together.
example : (read "/a#b?c#d".toList).href = "/a?c#d#b".toList ∧
    (read "/a#b?c#d".toList).query = "c#d".toList ∧
    (read "/a?c#d#b".toList).query = "c".toList := by decide

end UrlRecord

end RoutePattern
