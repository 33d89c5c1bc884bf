import RoutePattern.Proofs.LowerCase
import RoutePattern.Proofs.Url.Parts

/-!
# Records of URLs

The record of a URL shows the parts that make the URL up: the scheme in lower case, what stands on
the two sides of the at sign of the authority, the path as it is written, and the query with the
fragment (`read_text_shows`). An authority with several at signs shows nothing, and a URL without a
query of its own takes it from the fragment.
-/
namespace RoutePattern.UrlRecord

/-- The record of every URL is made of its parts, that of the empty URL as well. -/
theorem read_eq_ofParts (url : Text) : read url = ofParts url (Parts.read url) := by
  cases url with
  | nil => rfl
  | cons c rest => rfl

/-! ## The authority -/

/-- An authority without an at sign is a host. -/
theorem readAuthority_host {host : Text} (free : '@' ∉ host) :
    readAuthority host = ([], Text.lower host, Text.lower host) := by
  rw [readAuthority, Text.split_eq_singleton free]

/-- A single at sign stands between the credentials and the host. -/
theorem readAuthority_signed {auth host : Text} (first : '@' ∉ auth) (second : '@' ∉ host) :
    readAuthority (auth ++ '@' :: host) =
      (auth, Text.lower host, auth ++ '@' :: Text.lower host) := by
  rw [readAuthority, Text.split_append_cons first, Text.split_eq_singleton second]

/-- With several at signs there are neither credentials nor a host. -/
theorem readAuthority_several {authority : Text} (several : 1 < authority.count '@') :
    readAuthority authority = ([], [], Text.lower authority) := by
  obtain ⟨auth, host, rfl, first⟩ :=
    List.eq_append_cons_of_mem (List.count_pos_iff.1 (Nat.lt_trans Nat.one_pos several))
  rw [List.count_append, List.count_eq_zero.2 first, List.count_cons_self] at several
  have again : 0 < host.count '@' := by omega
  obtain ⟨host, rest, rfl, second⟩ := List.eq_append_cons_of_mem (List.count_pos_iff.1 again)
  rw [readAuthority, Text.split_append_cons first, Text.split_append_cons second]
  cases pieces : Text.split '@' rest with
  | nil => exact absurd pieces (Text.split_ne_nil '@' rest)
  | cons piece pieces => rfl

/-- An authority has no at sign, one between two sides, or several. -/
theorem authority_cases (authority : Text) : '@' ∉ authority ∨
    (∃ auth host, authority = auth ++ '@' :: host ∧ '@' ∉ auth ∧ '@' ∉ host) ∨
    1 < authority.count '@' := by
  by_cases free : '@' ∉ authority
  · exact .inl free
  · obtain ⟨auth, host, rfl, first⟩ := List.eq_append_cons_of_mem (not_not.1 free)
    by_cases second : '@' ∉ host
    · exact .inr (.inl ⟨auth, host, rfl, first, second⟩)
    · have more := List.count_pos_iff.2 (not_not.1 second)
      rw [List.count_append, List.count_cons_self]
      exact .inr (.inr (by omega))

/-! ## The query and the fragment -/

/-- A fragment gives up what follows its first question mark. -/
theorem readSearch_donated {fragment : Text} (free : '?' ∉ fragment) (query : Text) :
    readSearch none (fragment ++ '?' :: query) = ('?' :: query, query, fragment) := by
  have inside : ∀ c ∈ fragment, (c != '?') = true := Text.forall_bne_iff.2 free
  have mark : ∀ c ∈ ('?' :: query).head?, (c != '?') = false := by
    intro c found
    obtain rfl := Option.some.inj found
    rfl
  simp only [readSearch, Text.span_append inside mark]
  rfl

/-- A fragment without a question mark has nothing to give. -/
theorem readSearch_plain {fragment : Text} (free : '?' ∉ fragment) :
    readSearch none fragment = ([], [], fragment) := by
  have inside : ∀ c ∈ fragment, (c != '?') = true := Text.forall_bne_iff.2 free
  have whole : (fragment ++ []).span (· != '?') = (fragment, []) :=
    Text.span_append inside (by simp)
  rw [List.append_nil] at whole
  simp only [readSearch, whole]
  rfl

/-! ## The record of parts -/

/-- The record shows the parts of a URL. -/
structure Shows (record : UrlRecord) (parts : Parts) : Prop where
  protocol : record.protocol = Text.lower (parts.scheme.getD [])
  slashes : record.slashes = parts.authority.isSome
  pathname : record.pathname = parts.path
  /-- Without an at sign the authority is the host. -/
  host : '@' ∉ parts.authority.getD [] →
    record.auth = [] ∧ record.host = Text.lower (parts.authority.getD [])
  /-- Credentials are shown as they are written. -/
  signed : ∀ auth host, parts.authority = some (auth ++ '@' :: host) → '@' ∉ auth → '@' ∉ host →
    record.auth = auth ∧ record.host = Text.lower host
  several : 1 < (parts.authority.getD []).count '@' → record.auth = [] ∧ record.host = []
  /-- A query of its own leaves the fragment as it is. -/
  own : ∀ query ∈ parts.query, record.search = '?' :: query ∧ record.query = query ∧
    record.fragment = parts.fragment.getD []
  /-- A URL without a query takes it from the fragment. -/
  donated : parts.query = none → ∀ fragment query,
    parts.fragment = some (fragment ++ '?' :: query) → '?' ∉ fragment →
    record.search = '?' :: query ∧ record.query = query ∧ record.fragment = fragment
  plain : parts.query = none → '?' ∉ parts.fragment.getD [] →
    record.search = [] ∧ record.query = [] ∧ record.fragment = parts.fragment.getD []

/-- The authority that a record shows. -/
theorem ofParts_authority {url auth host written : Text} {parts : Parts}
    (read : readAuthority (parts.authority.getD []) = (auth, host, written)) :
    (ofParts url parts).auth = auth ∧ (ofParts url parts).host = host := by
  simp only [ofParts, read, and_self]

/-- The query and the fragment that a record shows. -/
theorem ofParts_search {url search query fragment : Text} {parts : Parts}
    (read : readSearch parts.query (parts.fragment.getD []) = (search, query, fragment)) :
    (ofParts url parts).search = search ∧ (ofParts url parts).query = query ∧
      (ofParts url parts).fragment = fragment := by
  simp only [ofParts, read, and_self]

/-- The record of parts shows them. -/
theorem ofParts_shows (url : Text) (parts : Parts) : (ofParts url parts).Shows parts where
  protocol := rfl
  slashes := rfl
  pathname := rfl
  host free := ofParts_authority (readAuthority_host free)
  signed auth host same first second := by
    have read := readAuthority_signed first second
    exact ofParts_authority (by rw [same]; exact read)
  several several := ofParts_authority (readAuthority_several several)
  own query same := by
    refine ofParts_search ?_
    rw [Option.mem_def.1 same]
    rfl
  donated none fragment query same free := by
    refine ofParts_search ?_
    rw [none, same]
    exact readSearch_donated free query
  plain none free := by
    refine ofParts_search ?_
    rw [none]
    exact readSearch_plain free

/-- The record of the URL that well-formed parts make up shows these parts. -/
theorem read_text_shows {parts : Parts} (formed : parts.IsFormed) :
    (read parts.text).Shows parts := by
  have shown := ofParts_shows parts.text (Parts.read parts.text)
  rw [formed.read_text] at shown
  rw [read_eq_ofParts, formed.read_text]
  exact shown

/-- The parts of a URL whose query and fragment hold delimiters of their own. -/
def mixedParts : Parts :=
  ⟨some "HTTP".toList, some "Ann:a@Host.IO:80".toList, "/a:b//".toList, some "x=1?".toList,
    some "s?#".toList⟩

/-- Delimiters that come again are left in the part in which they stand. -/
theorem read_text_shows_mixed : mixedParts.IsFormed ∧
    (read "HTTP://Ann:a@Host.IO:80/a:b//?x=1?#s?#".toList).Shows mixedParts ∧
    (read "HTTP://Ann:a@Host.IO:80/a:b//?x=1?#s?#".toList).auth = "Ann:a".toList ∧
    (read "HTTP://Ann:a@Host.IO:80/a:b//?x=1?#s?#".toList).host = "host.io:80".toList ∧
    (read "HTTP://Ann:a@Host.IO:80/a:b//?x=1?#s?#".toList).fragment = "s?#".toList := by
  have formed : mixedParts.IsFormed := by
    refine ⟨?_, ?_, Text.forall_mem_iff_all.2 (by decide), ?_, fun _ => .inr rfl, ?_, ?_⟩
    · rintro scheme same
      obtain rfl := Option.some.inj same
      exact ⟨by decide, Text.forall_mem_iff_all.2 (by decide)⟩
    · rintro authority same
      obtain rfl := Option.some.inj same
      exact Text.forall_mem_iff_all.2 (by decide)
    · rintro query same
      obtain rfl := Option.some.inj same
      decide
    · exact fun missing => absurd missing (by decide)
    · exact fun missing => absurd missing (by decide)
  have shown := read_text_shows formed
  have signed := shown.signed "Ann:a".toList "Host.IO:80".toList rfl (by decide) (by decide)
  have lowered : Text.lower "Host.IO:80".toList = "host.io:80".toList := by decide
  rw [lowered] at signed
  exact ⟨formed, shown, signed.1, signed.2, (shown.own _ rfl).2.2⟩

end RoutePattern.UrlRecord
