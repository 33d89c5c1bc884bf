import RoutePattern.Proofs.QueryText
import RoutePattern.Proofs.Url.Delimited
import RoutePattern.Proofs.Url.Parts

/-!
# Matching whole URLs

A route takes the path out of a URL before it matches it, and takes the query and the fragment out
of the decoded URL. Neither a scheme nor an authority holds a delimiter of these two, and decoding
adds none, so what stands before a rooted path plays no part. A URL has the match of its path alone
and the parameters of its path with the query and the fragment (`captures_and_params_text`).
-/
namespace RoutePattern

/-! ## URLs with a rooted path -/

namespace Parts

/-- Parts of a URL that are told apart when they stand one after the other, with a path that starts
with a single slash. -/
structure IsRooted (parts : Parts) : Prop where
  scheme : ∀ scheme ∈ parts.scheme, scheme ≠ [] ∧ ∀ c ∈ scheme, c ∉ [':', '/', '?', '#']
  authority : ∀ authority ∈ parts.authority, ∀ c ∈ authority, c ∉ ['/', '?', '#']
  first : parts.path.head? = some '/'
  single : ¬ ['/', '/'] <+: parts.path
  path : ∀ c ∈ parts.path, c ∉ ['?', '#']
  query : ∀ query ∈ parts.query, '#' ∉ query

/-- The parts without a scheme and an authority. -/
def relative (parts : Parts) : Parts := { parts with scheme := none, authority := none }

/-- The parts of a path alone. -/
def ofPath (path : Text) : Parts := ⟨none, none, path, none, none⟩

/-- What stands in front of the path. -/
def front (parts : Parts) : Text := ledOut parts.scheme ++ led ['/', '/'] parts.authority

/-- A path alone is its own text. -/
theorem text_ofPath (path : Text) : (ofPath path).text = path := by
  simp [ofPath, text, ledOut, led]

/-- A URL is what stands in front of its path, and the path with the query and the fragment. -/
theorem text_eq_front_append (parts : Parts) : parts.text = parts.front ++ parts.relative.text := by
  simp only [text, front, relative, ledOut, led, List.nil_append, List.append_assoc]

section Rooted

variable {parts : Parts} (rooted : parts.IsRooted)

include rooted

/-- Parts with a rooted path are well formed. -/
theorem IsRooted.formed : parts.IsFormed where
  scheme := rooted.scheme
  authority := rooted.authority
  path := rooted.path
  query := rooted.query
  rooted _ := .inr rooted.first
  single _ := rooted.single
  schemeless _ _ scheme given apart leads := by
    obtain ⟨c, scheme, rfl⟩ := List.exists_cons_of_ne_nil given
    obtain ⟨rest, same⟩ := leads
    have first := rooted.first
    rw [← same] at first
    exact (apart c (List.mem_cons_self ..)).2 (Option.some.inj first)

/-- The parts stay rooted without a scheme and an authority. -/
theorem IsRooted.relative : parts.relative.IsRooted where
  scheme := by simp [Parts.relative]
  authority := by simp [Parts.relative]
  first := rooted.first
  single := rooted.single
  path := rooted.path
  query := rooted.query

/-- The path of rooted parts is rooted by itself. -/
theorem IsRooted.ofPath : (ofPath parts.path).IsRooted where
  scheme := by simp [Parts.ofPath]
  authority := by simp [Parts.ofPath]
  first := rooted.first
  single := rooted.single
  path := rooted.path
  query := by simp [Parts.ofPath]

/-- A rooted path stays rooted with one more slash at its end, unless that makes two. -/
theorem IsRooted.concat_slash (ends : parts.path.getLast? ≠ some '/') :
    (Parts.ofPath (parts.path ++ ['/'])).IsRooted where
  scheme := by simp [Parts.ofPath]
  authority := by simp [Parts.ofPath]
  first := by rw [Parts.ofPath, List.head?_append, rooted.first, Option.some_or]
  single double := by
    obtain ⟨rest, path⟩ := List.head?_eq_some_iff.1 rooted.first
    have single := rooted.single
    rw [path] at single ends
    rw [Parts.ofPath, path] at double
    cases rest with
    | nil => exact ends rfl
    | cons c rest =>
      have second : (c :: rest ++ ['/']).head? = some '/' := two_prefix_cons_iff.1 double
      exact single (two_prefix_cons_iff.2 second)
  path c found := by
    rcases List.mem_append.1 found with inside | slash
    · exact rooted.path c inside
    · rw [List.mem_singleton.1 slash]
      decide
  query := by simp [Parts.ofPath]

/-- A URL with a rooted path is not empty. -/
theorem IsRooted.text_ne_nil : parts.text ≠ [] := by
  obtain ⟨rest, path⟩ := List.head?_eq_some_iff.1 rooted.first
  simp [text, path]

/-- A URL is normalized to its normalized path. -/
theorem IsRooted.normalize_text : normalize parts.text = normalizePath parts.path := by
  rw [normalize, if_neg (by simpa using rooted.text_ne_nil), rooted.formed.read_text]

/-- No delimiter of a query or of a fragment stands in front of the path. -/
theorem IsRooted.not_mem_front {c : Char} (ends : c ∈ ['?', '#']) : c ∉ parts.front := by
  intro found
  have apart : ∀ c ∈ ['?', '#'], c ≠ ':' ∧ c ≠ '/' := Text.forall_mem_iff_all.2 (by decide)
  obtain ⟨colon, slash⟩ := apart c ends
  rcases List.mem_append.1 found with found | found
  · cases lead : parts.scheme with
    | none =>
      rw [lead] at found
      exact absurd found List.not_mem_nil
    | some scheme =>
      rw [lead] at found
      rcases List.mem_append.1 found with inside | last
      · exact (rooted.scheme scheme lead).2 c inside
          (List.mem_cons_of_mem _ (List.mem_cons_of_mem _ ends))
      · exact colon (List.mem_singleton.1 last)
  · cases owner : parts.authority with
    | none =>
      rw [owner] at found
      exact absurd found List.not_mem_nil
    | some authority =>
      rw [owner] at found
      rcases List.mem_append.1 found with slashes | inside
      · exact slash (by simpa using slashes)
      · exact rooted.authority authority owner c inside (List.mem_cons_of_mem _ ends)

/-- A URL is decoded in front of its path and from there on. -/
theorem IsRooted.decodeUri_text : Percent.decodeUri parts.text =
    Percent.decodeUri parts.front ++ Percent.decodeUri parts.relative.text := by
  obtain ⟨rest, path⟩ := List.head?_eq_some_iff.1 rooted.first
  have slash : parts.relative.text =
      '/' :: (rest ++ (led ['?'] parts.query ++ led ['#'] parts.fragment)) := by
    simp [Parts.relative, text, ledOut, led, path]
  rw [text_eq_front_append, slash, Percent.decodeUri_append_cons (by decide),
    Percent.decodeUri_plain (by decide)]

end Rooted

end Parts

namespace Route

open Percent

/-! ## Query and fragment -/

/-- A text without a question mark in front of a URL is not looked at for the query. -/
theorem queryPart_append {front : Text} (free : '?' ∉ front) (url : Text) :
    queryPart (front ++ url) = queryPart url := by
  rw [queryPart_eq_before, queryPart_eq_before, queryText, queryText, Text.after_append free]

/-- A text without a number sign in front of a URL is not looked at for the fragment. -/
theorem fragmentPart_append {front : Text} (free : '#' ∉ front) (url : Text) :
    fragmentPart (front ++ url) = fragmentPart url := by
  rw [fragmentPart_eq_before, fragmentPart_eq_before, fragmentText, fragmentText,
    Text.after_append free]

/-- The parameters of a match depend on the URL through its query and its fragment. -/
theorem paramsOf_congr (route : Route) (convert : Bool) {one two : Text} (found : Regex.Match)
    (query : queryPart (decodeUri one) = queryPart (decodeUri two))
    (fragment : fragmentPart (decodeUri one) = fragmentPart (decodeUri two)) :
    route.paramsOf convert one found = route.paramsOf convert two found := by
  simp only [paramsOf, query, fragment]

/-! ## The path decides -/

section Rooted

variable {parts : Parts} (rooted : parts.IsRooted)

include rooted

/-- A route finds in a URL what it finds in the path alone. -/
theorem find_text (route : Route) : route.find parts.text = route.find parts.path := by
  have alone := rooted.ofPath.normalize_text
  rw [Parts.text_ofPath] at alone
  rw [find, find, rooted.normalize_text, alone]
  rfl

/-- The parameters of a match in a URL are those of the match in the URL from its path on. -/
theorem paramsOf_text (route : Route) (convert : Bool) (found : Regex.Match) :
    route.paramsOf convert parts.text found = route.paramsOf convert parts.relative.text found := by
  have query : '?' ∉ decodeUri parts.front :=
    not_mem_decodeUri (by decide) (rooted.not_mem_front (by decide))
  have fragment : '#' ∉ decodeUri parts.front :=
    not_mem_decodeUri (by decide) (rooted.not_mem_front (by decide))
  refine paramsOf_congr route convert found ?_ ?_
  · rw [rooted.decodeUri_text, queryPart_append query]
  · rw [rooted.decodeUri_text, fragmentPart_append fragment]

/-- A slash at the end of a path is not looked at. -/
theorem find_concat_slash (route : Route) (ends : parts.path.getLast? ≠ some '/') :
    route.find (parts.path ++ ['/']) = route.find parts.path := by
  have longer := (rooted.concat_slash ends).normalize_text
  have alone := rooted.ofPath.normalize_text
  rw [Parts.text_ofPath] at longer alone
  have self : normalizePath parts.path = parts.path :=
    normalizePath_eq_self_iff.2 ⟨rooted.first, fun last => absurd last ends⟩
  have same : normalize (parts.path ++ ['/']) = normalize parts.path :=
    calc normalize (parts.path ++ ['/'])
      _ = normalizePath (parts.path ++ ['/']) := longer
      _ = parts.path := normalizePath_concat_slash rooted.first
      _ = normalizePath parts.path := self.symm
      _ = normalize parts.path := alone.symm
  rw [find, find, same]

/-- Only the path of a URL decides its match: the match of a URL is that of its path alone, with or
without a slash at the end of it. The parameters of a URL are those of its path with the query and
the fragment, if the path matches, and neither of the two has any if it does not. -/
theorem captures_and_params_text (route : Route) :
    route.captures parts.text = route.captures parts.path ∧
      (∀ convert, route.test parts.path = false ∧
          route.params parts.text convert = .error (.noMatch route.name parts.text) ∧
          route.params parts.relative.text convert =
            .error (.noMatch route.name parts.relative.text) ∨
        route.test parts.path = true ∧
          route.params parts.text convert = route.params parts.relative.text convert ∧
          (convert = false → ∃ params, route.params parts.text false = .ok params)) ∧
      (parts.path.getLast? ≠ some '/' →
        route.captures (parts.path ++ ['/']) = route.captures parts.path) := by
  have whole := find_text rooted route
  have relative := find_text rooted.relative route
  have given : parts.text.isEmpty = false := by simpa using rooted.text_ne_nil
  have left : parts.relative.text.isEmpty = false := by simpa using rooted.relative.text_ne_nil
  refine ⟨?_, fun convert => ?_, fun ends => ?_⟩
  · rw [captures, captures, whole]
  -- All three are matched by what normalizing leaves of the path.
  · cases matched : route.find parts.path with
    | none =>
      have missed : route.find parts.relative.text = none := relative.trans matched
      refine .inl ⟨?_, ?_, ?_⟩
      · rw [test, matched]
        rfl
      · simp only [params, given, whole, matched, Bool.false_eq_true, if_false]
      · simp only [params, left, missed, Bool.false_eq_true, if_false]
    | some found =>
      have hit : route.find parts.relative.text = some found := relative.trans matched
      have tested : route.test parts.text = true := by
        rw [test, whole, matched]
        rfl
      refine .inr ⟨?_, ?_, fun _ => ?_⟩
      · rw [test, matched]
        rfl
      · simp only [params, given, left, whole, matched, hit, paramsOf_text rooted, Bool.false_eq_true,
          if_false]
      · obtain ⟨params, taken, -⟩ := params_plain_ok route rooted.text_ne_nil tested
        exact ⟨params, taken⟩
  · rw [captures, captures, find_concat_slash rooted route ends]

end Rooted

/-- A URL with delimiters and escapes in all of its parts. -/
def docsParts : Parts :=
  ⟨some "HT%3FTP".toList, some "me:p%23w@Docs.org:80".toList, "/docs/a%2Fb".toList,
    some "x=%3F?y&z=1".toList, some "p#q?r".toList⟩

/-- The route of a document finds its name in the URL, whatever stands around the path. -/
theorem captures_and_params_text_docs :
    docsParts.IsRooted ∧ docsParts.path.getLast? ≠ some '/' ∧
      ∃ route, Route.make (.pattern "/docs/:name".toList) strictSettings [] = .ok route ∧
        route.captures docsParts.text = some [some "/docs/a%2Fb".toList, some "a%2Fb".toList] ∧
        (∃ params, route.params docsParts.text false = .ok params ∧
          route.params docsParts.relative.text false = .ok params) ∧
        route.captures (docsParts.path ++ ['/']) = route.captures docsParts.path := by
  have rooted : docsParts.IsRooted := {
    scheme := by
      intro scheme given
      obtain rfl := Option.some.inj given
      exact ⟨by decide, Text.forall_mem_iff_all.2 (by decide)⟩
    authority := by
      intro authority given
      obtain rfl := Option.some.inj given
      exact Text.forall_mem_iff_all.2 (by decide)
    first := rfl
    single := by decide
    path := Text.forall_mem_iff_all.2 (by decide)
    query := by
      intro query given
      obtain rfl := Option.some.inj given
      decide }
  have ends : docsParts.path.getLast? ≠ some '/' := by decide
  refine ⟨rooted, ends, ?_⟩
  have taken : (Route.make (.pattern "/docs/:name".toList) strictSettings []).toOption.map
      (·.captures docsParts.path) =
        some (some [some "/docs/a%2Fb".toList, some "a%2Fb".toList]) := by decide +kernel
  cases made : Route.make (.pattern "/docs/:name".toList) strictSettings [] with
  | error error =>
    rw [made] at taken
    exact absurd taken (by simp [Except.toOption])
  | ok route =>
    rw [made] at taken
    have path : route.captures docsParts.path = _ := Option.some.inj taken
    obtain ⟨whole, outcome, slashed⟩ := captures_and_params_text rooted route
    refine ⟨route, rfl, whole.trans path, ?_, slashed ends⟩
    rcases outcome false with ⟨missed, -⟩ | ⟨-, same, found⟩
    · rw [captures] at path
      rw [test, Option.isSome_eq_false_iff, Option.isNone_iff_eq_none] at missed
      rw [missed] at path
      exact absurd path (by simp)
    · obtain ⟨params, taken⟩ := found rfl
      exact ⟨params, taken, same.symm.trans taken⟩

end Route

end RoutePattern
