import RoutePattern.Proofs.Delimiter
import RoutePattern.Url.Record

/-!
# Normal paths

A normal path starts with one slash, ends in none unless it is this slash alone, and holds no
delimiter of a query or of a fragment. Apart from the empty URL, normal paths are what normalizing
leaves as it is (`normalize_eq_self_iff`). Normalizing adds a missing slash at the start and takes
one slash from the end, but leaves further slashes where they are. So its result is normal, and
stays the same when it is normalized again, exactly if there are no two slashes at an end of the
path (`normalize_normalize_iff`).
-/
namespace RoutePattern

/-- A path in the form that paths are matched in. -/
structure IsNormal (path : Text) : Prop where
  first : path.head? = some '/'
  /-- Two slashes would be read as the start of an authority. -/
  single : ¬ ['/', '/'] <+: path
  last : path.getLast? = some '/' → path = ['/']
  inside : ∀ c ∈ path, Parts.inPath c = true

/-- The path of a URL, with a slash in front. -/
def rooted (path : Text) : Text := if path.head? == some '/' then path else '/' :: path

/-- A rooted path starts with a slash. -/
theorem rooted_eq_cons (path : Text) : ∃ rest, rooted path = '/' :: rest := by
  unfold rooted
  split
  · next slash => exact List.head?_eq_some_iff.1 (beq_iff_eq.1 slash)
  · exact ⟨path, rfl⟩

/-- Normalizing a path takes a slash from the end of the rooted path, unless it is all there is. -/
theorem normalizePath_rooted (path : Text) : normalizePath path =
    if 1 < (rooted path).length && (rooted path).getLast? == some '/' then (rooted path).dropLast
    else rooted path := rfl

/-! ## The path of a URL -/

/-- The path of a URL holds no delimiter. -/
theorem inPath_of_mem_path {url : Text} : ∀ c ∈ (Parts.read url).path, Parts.inPath c = true := by
  intro c found
  have cut : (Parts.read url).path =
      ((Parts.readAuthority (Parts.readScheme url).2).2.span Parts.inPath).1 := rfl
  rw [cut, List.span_eq_takeWhile_dropWhile] at found
  exact List.mem_takeWhile_imp found

/-- A URL that starts with a slash has no scheme. -/
theorem readScheme_slash (rest : Text) :
    Parts.readScheme ('/' :: rest) = (none, '/' :: rest) := by
  simp [Parts.readScheme, Parts.inScheme, List.span_eq_takeWhile_dropWhile]

/-- The path of a URL that starts with a single slash starts there. -/
theorem path_read_single {rest : Text} (single : ¬ ['/', '/'] <+: '/' :: rest) :
    (Parts.read ('/' :: rest)).path = ('/' :: rest).takeWhile Parts.inPath := by
  have authority : Parts.readAuthority ('/' :: rest) = (none, '/' :: rest) := by
    rw [Parts.readAuthority]
    rintro more same
    obtain rfl := (List.cons.inj same).2
    exact single ⟨more, rfl⟩
  simp only [Parts.read, readScheme_slash, authority, List.span_eq_takeWhile_dropWhile]

/-- The path of a URL that starts with two slashes comes after its authority. -/
theorem path_read_double (rest : Text) :
    (Parts.read ('/' :: '/' :: rest)).path =
      (rest.dropWhile Parts.inAuthority).takeWhile Parts.inPath := by
  have authority : Parts.readAuthority ('/' :: '/' :: rest) =
      (some (rest.takeWhile Parts.inAuthority), rest.dropWhile Parts.inAuthority) := by
    rw [Parts.readAuthority, List.span_eq_takeWhile_dropWhile]
  simp only [Parts.read, readScheme_slash, authority, List.span_eq_takeWhile_dropWhile]

/-! ## Fixed points -/

/-- A normalized path is at most one character longer than the path. -/
theorem length_normalizePath_le (path : Text) : (normalizePath path).length ≤ path.length + 1 := by
  have root : (rooted path).length ≤ path.length + 1 := by
    unfold rooted
    split
    · exact Nat.le_succ _
    · exact Nat.le_refl _
  rw [normalizePath_rooted]
  split
  · rw [List.length_dropLast]
    omega
  · exact root

/-- A normalized path starts with a slash. -/
theorem head?_normalizePath (path : Text) : (normalizePath path).head? = some '/' := by
  obtain ⟨rest, root⟩ := rooted_eq_cons path
  rw [normalizePath_rooted, root]
  split
  · next long =>
    cases rest with
    | nil => exact absurd long (by decide)
    | cons c rest => rfl
  · rfl

/-- A normalized path holds no character that the path does not hold, besides its slashes. -/
theorem mem_normalizePath {path : Text} {c : Char} (found : c ∈ normalizePath path) :
    c ∈ path ∨ c = '/' := by
  have root : c ∈ rooted path → c ∈ path ∨ c = '/' := by
    unfold rooted
    split
    · exact .inl
    · intro inside
      exact (List.mem_cons.1 inside).symm
  rw [normalizePath_rooted] at found
  split at found
  · exact root (List.dropLast_subset _ found)
  · exact root found

/-- A path that starts with a slash and has no slash at its end to take away stays as it is. -/
theorem normalizePath_eq_self_iff {path : Text} : normalizePath path = path ↔
    path.head? = some '/' ∧ (path.getLast? = some '/' → path = ['/']) := by
  constructor
  · intro same
    have first : path.head? = some '/' := same ▸ head?_normalizePath path
    refine ⟨first, fun slash => ?_⟩
    have root : rooted path = path := if_pos (beq_iff_eq.2 first)
    by_contra more
    have long : 1 < path.length := by
      obtain ⟨rest, rfl⟩ := List.head?_eq_some_iff.1 first
      have given : rest ≠ [] := fun none => more (by rw [none])
      exact Nat.succ_lt_succ (List.length_pos_iff.2 given)
    rw [normalizePath_rooted, root, slash, if_pos (by simp [long])] at same
    have shorter := congrArg List.length same
    rw [List.length_dropLast] at shorter
    omega
  · rintro ⟨first, last⟩
    have root : rooted path = path := if_pos (beq_iff_eq.2 first)
    rw [normalizePath_rooted, root, if_neg]
    intro taken
    obtain ⟨long, slash⟩ := Bool.and_eq_true_iff.1 taken
    rw [last (beq_iff_eq.1 slash)] at long
    exact absurd long (by decide)

/-- One slash is taken from the end of a path that starts with another one. -/
theorem normalizePath_concat_slash {path : Text} (first : path.head? = some '/') :
    normalizePath (path ++ ['/']) = path := by
  obtain ⟨rest, rfl⟩ := List.head?_eq_some_iff.1 first
  have root : rooted ('/' :: rest ++ ['/']) = '/' :: rest ++ ['/'] := if_pos rfl
  have slash : ('/' :: rest ++ ['/']).getLast? = some '/' := List.getLast?_concat ..
  rw [normalizePath_rooted, root, slash, if_pos (by simp), List.dropLast_concat]

/-- A text that starts with two slashes is not the normalized form of its own path: what comes after
the authority is too short. -/
theorem single_of_normalizePath_read {text : Text}
    (same : normalizePath (Parts.read text).path = text) : ¬ ['/', '/'] <+: text := by
  rintro ⟨rest, rfl⟩
  have short : (Parts.read ('/' :: '/' :: rest)).path.length ≤ rest.length := by
    rw [path_read_double]
    exact Nat.le_trans (List.takeWhile_prefix _).length_le (List.dropWhile_suffix _).length_le
  have long := length_normalizePath_le (Parts.read ('/' :: '/' :: rest)).path
  have whole := congrArg List.length same
  simp only [List.cons_append, List.nil_append, List.length_cons] at whole
  omega

/-- A text that is the normalized form of its own path is normal. -/
theorem isNormal_of_normalizePath_read {text : Text}
    (same : normalizePath (Parts.read text).path = text) : IsNormal text := by
  have first : text.head? = some '/' := by
    rw [← same]
    exact head?_normalizePath _
  have single := single_of_normalizePath_read same
  have inside : ∀ c ∈ text, Parts.inPath c = true := by
    intro c found
    rw [← same] at found
    rcases mem_normalizePath found with here | rfl
    · exact inPath_of_mem_path c here
    · decide
  refine ⟨first, single, ?_, inside⟩
  obtain ⟨rest, rfl⟩ := List.head?_eq_some_iff.1 first
  rw [path_read_single single, List.takeWhile_eq_self_iff.2 inside] at same
  exact (normalizePath_eq_self_iff.1 same).2

/-- A normal path stays as it is. -/
theorem IsNormal.normalize_eq {path : Text} (normal : IsNormal path) : normalize path = path := by
  obtain ⟨rest, rfl⟩ := List.head?_eq_some_iff.1 normal.first
  have path : (Parts.read ('/' :: rest)).path = '/' :: rest := by
    rw [path_read_single normal.single]
    exact List.takeWhile_eq_self_iff.2 normal.inside
  rw [normalize, if_neg (by simp), path]
  exact normalizePath_eq_self_iff.2 ⟨normal.first, normal.last⟩

/-- Normalizing leaves normal paths and the empty URL as they are, and nothing else. -/
theorem normalize_eq_self_iff {path : Text} :
    normalize path = path ↔ path = [] ∨ IsNormal path := by
  constructor
  · intro same
    by_cases empty : path = []
    · exact .inl empty
    · rw [normalize, if_neg (by simpa using empty)] at same
      exact .inr (isNormal_of_normalizePath_read same)
  · rintro (rfl | normal)
    · rfl
    · exact normal.normalize_eq

/-! ## Normalizing twice -/

/-- A text that starts with a slash starts with two exactly if another one follows. -/
theorem two_prefix_cons_iff {rest : Text} :
    ['/', '/'] <+: '/' :: rest ↔ rest.head? = some '/' := by
  rw [List.prefix_cons_inj]
  cases rest with
  | nil => simp
  | cons c rest => simp [eq_comm]

/-- A text ends with two slashes exactly if it ends with one after another one. -/
theorem two_suffix_concat_iff {text : Text} {c : Char} :
    ['/', '/'] <:+ text ++ [c] ↔ text.getLast? = some '/' ∧ c = '/' := by
  constructor
  · rintro ⟨front, same⟩
    have ends : (front ++ ['/']) ++ ['/'] = text ++ [c] := by simpa using same
    obtain ⟨rfl, last⟩ := List.append_inj' ends rfl
    exact ⟨List.getLast?_concat .., (List.cons.inj last).1.symm⟩
  · rintro ⟨last, rfl⟩
    obtain ⟨front, rfl⟩ := List.getLast?_eq_some_iff.1 last
    exact ⟨front, by simp⟩

/-- The normalized form of a rooted path is normal exactly if there are no two slashes at its start
or at its end, or nothing else. -/
theorem isNormal_normalizePath_rooted {path rest : Text}
    (inside : ∀ c ∈ path, Parts.inPath c = true) (root : rooted path = '/' :: rest) :
    IsNormal (normalizePath path) ↔
      rest = ['/'] ∨ ¬ ['/', '/'] <+: '/' :: rest ∧ ¬ ['/', '/'] <:+ '/' :: rest := by
  have shape : IsNormal (normalizePath path) ↔ ¬ ['/', '/'] <+: normalizePath path ∧
      ((normalizePath path).getLast? = some '/' → normalizePath path = ['/']) := by
    refine ⟨fun normal => ⟨normal.single, normal.last⟩, fun ⟨single, last⟩ => ?_⟩
    refine ⟨head?_normalizePath path, single, last, fun c found => ?_⟩
    rcases mem_normalizePath found with here | rfl
    · exact inside c here
    · decide
  rw [shape, normalizePath_rooted, root]
  rcases List.eq_nil_or_concat rest with rfl | ⟨middle, c, rfl⟩
  · decide
  rw [List.concat_eq_append, ← List.cons_append, two_suffix_concat_iff, List.getLast?_concat,
    List.dropLast_concat]
  by_cases slash : c = '/'
  · subst slash
    -- One slash is taken away, so a second one in front of it is left at the end.
    rw [if_pos (by simp)]
    cases middle with
    | nil => decide
    | cons d middle =>
      have alone : ¬ d :: (middle ++ ['/']) = ['/'] := by simp
      have more : ¬ '/' :: d :: middle = ['/'] := by simp
      simp only [List.cons_append, two_prefix_cons_iff, List.head?_cons, alone, more, imp_false,
        false_or, and_true]
  · have other : ¬ some c = some '/' := by simpa using slash
    have alone : ¬ middle ++ [c] = ['/'] := by
      intro same
      have last := congrArg List.getLast? same
      rw [List.getLast?_concat] at last
      exact other last
    rw [if_neg (by simp [slash])]
    simp only [List.getLast?_concat, other, alone, slash, false_imp_iff, and_true, false_or,
      and_false, not_false_eq_true]

/-- The normalized form of a path is normal exactly if there are no two slashes at an end of the
path, or nothing else. -/
theorem isNormal_normalizePath_iff {path : Text} (inside : ∀ c ∈ path, Parts.inPath c = true) :
    IsNormal (normalizePath path) ↔
      path = ['/', '/'] ∨ ¬ ['/', '/'] <+: path ∧ ¬ ['/', '/'] <:+ path := by
  by_cases slash : path.head? = some '/'
  · obtain ⟨rest, rfl⟩ := List.head?_eq_some_iff.1 slash
    rw [isNormal_normalizePath_rooted inside (if_pos (beq_iff_eq.2 slash))]
    simp
  · have root : rooted path = '/' :: path := if_neg (by simpa using slash)
    have front : ¬ ['/', '/'] <+: path := by
      rintro ⟨rest, rfl⟩
      exact slash rfl
    have alone : ∀ text, text.head? = some '/' → path ≠ text := by
      rintro text first rfl
      exact slash first
    have back : ['/', '/'] <:+ '/' :: path ↔ ['/', '/'] <:+ path := by
      rcases List.eq_nil_or_concat path with rfl | ⟨middle, c, rfl⟩
      · decide
      · rw [List.concat_eq_append, ← List.cons_append, two_suffix_concat_iff,
          two_suffix_concat_iff]
        cases middle with
        | nil =>
          have other : c ≠ '/' := by simpa using slash
          simp [other]
        | cons d middle => rw [List.getLast?_cons_cons]
    rw [isNormal_normalizePath_rooted inside root, two_prefix_cons_iff, back]
    simp only [slash, front, alone ['/'] rfl, alone ['/', '/'] rfl]

/-- Normalizing the result once more changes nothing exactly if the path of the URL neither starts
nor ends with two slashes, or is just these two. -/
theorem normalize_normalize_iff (url : Text) :
    normalize (normalize url) = normalize url ↔
      (Parts.read url).path = ['/', '/'] ∨
        ¬ ['/', '/'] <+: (Parts.read url).path ∧ ¬ ['/', '/'] <:+ (Parts.read url).path := by
  by_cases empty : url = []
  · subst empty
    decide
  · have result : normalize url = normalizePath (Parts.read url).path := if_neg (by simpa using empty)
    have given : normalize url ≠ [] := by
      intro none
      have first := head?_normalizePath (Parts.read url).path
      rw [← result, none] at first
      exact absurd first (by decide)
    rw [normalize_eq_self_iff, or_iff_right given, result]
    exact isNormal_normalizePath_iff inPath_of_mem_path

-- The two slashes that are left of four are read as the start of an authority.
example : normalize "////a".toList = "//a".toList ∧ normalize "//a".toList = ['/'] := by decide

end RoutePattern
