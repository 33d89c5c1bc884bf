import RoutePattern.Proofs.Between.Matching
import RoutePattern.Proofs.Loosening.Loosened

/-!
# Values that keep their slashes

A parameter with the converter for paths takes all the rest of a path, slashes and all. It gives
back the value that a path is resolved with, less one slash at the end of it: that slash is the end
of the path, and is lost when the path is normalized (`params_resolve_path`).
-/
namespace RoutePattern

open Regex Regex.Reader Regex.Matcher

/-! ## Encoding -/

section Encoding

open Percent

/-- A text as a part of a path that keeps its slashes. -/
def encodePath (text : Text) : Text :=
  text.flatMap fun c => if c = '/' then ['/'] else encodeChar c

/-- A slash is kept. -/
theorem encodePath_slash (text : Text) : encodePath ('/' :: text) = '/' :: encodePath text := by
  rw [encodePath, List.flatMap_cons, if_pos rfl]
  rfl

/-- Any other character is encoded without a slash. -/
theorem encodePath_cons {c : Char} (other : c ≠ '/') (text : Text) :
    encodePath (c :: text) = encode [c] ++ encodePath text := by
  rw [encodePath, List.flatMap_cons, if_neg other]
  simp [encode, encodePath]

/-- Joined pieces begin with what the first of them begins with. -/
theorem Text.join_append_cons (between one two : Text) (pieces : List Text) :
    Text.join between ((one ++ two) :: pieces) = one ++ Text.join between (two :: pieces) := by
  cases pieces with
  | nil => rfl
  | cons piece pieces => simp [Text.join]

/-- Encoding the pieces between the slashes of a text keeps its slashes. -/
theorem join_encode_split (text : Text) :
    Text.join ['/'] ((Text.split '/' text).map encode) = encodePath text := by
  induction text with
  | nil => rfl
  | cons c text ih =>
    obtain ⟨piece, pieces, cut⟩ := List.exists_cons_of_ne_nil (Text.split_ne_nil '/' text)
    rw [cut] at ih
    by_cases slash : c = '/'
    · subst slash
      have split : Text.split '/' ('/' :: text) = [] :: piece :: pieces := by
        rw [Text.split, if_pos rfl, cut]
      rw [split]
      exact congrArg ('/' :: ·) ih
    · have split : Text.split '/' (c :: text) = (c :: piece) :: pieces := by
        rw [Text.split, if_neg slash, cut]
      have first : encode (c :: piece) = encodeChar c ++ encode piece := List.flatMap_cons ..
      rw [split, List.map_cons, first, Text.join_append_cons, encodePath, List.flatMap_cons,
        if_neg slash]
      exact congrArg (encodeChar c ++ ·) ih

/-- The segment of a value that keeps its slashes. -/
theorem encodeSegment_path (value : Text) :
    Route.encodeSegment Route.pathConverter (.text value) = .ok (encodePath value) := by
  rw [← join_encode_split]
  rfl

/-- A part of a path that keeps its slashes is decoded to its text. -/
theorem decode_encodePath (text : Text) : decode (encodePath text) = text := by
  rw [← join_encode_split, decode_join_encode, Text.join_split]

/-- Two texts are encoded one after the other. -/
theorem encodePath_append (one two : Text) :
    encodePath (one ++ two) = encodePath one ++ encodePath two :=
  List.flatMap_append

/-- A part of a path holds no character that breaks a path, besides slashes. -/
theorem not_mem_encodePath {c : Char} (broken : c ∈ pathBreaks) (other : c ≠ '/') (text : Text) :
    c ∉ encodePath text := by
  intro found
  obtain ⟨d, -, inside⟩ := List.mem_flatMap.1 found
  split at inside
  · exact other (List.mem_singleton.1 inside)
  · have alone : c ∈ encode [d] := by simpa [encode] using inside
    exact not_mem_encode_of_break broken [d] alone

/-- A part of a path begins with a slash only if its text does. -/
theorem exists_cons_of_head?_encodePath {text : Text} (first : (encodePath text).head? = some '/') :
    ∃ rest, text = '/' :: rest := by
  cases text with
  | nil => exact absurd first (by simp [encodePath])
  | cons c rest =>
    by_cases slash : c = '/'
    · exact ⟨rest, by rw [slash]⟩
    · rw [encodePath_cons slash, List.head?_append_of_ne_nil _ (encode_ne_nil (by simp))] at first
      exact absurd (List.mem_of_mem_head? first) (not_mem_encode (by decide) (by decide) [c])

/-- A part of a path ends in a slash only if its text does. -/
theorem getLast?_encodePath {text : Text} (last : text.getLast? ≠ some '/') :
    (encodePath text).getLast? ≠ some '/' := by
  rcases List.eq_nil_or_concat text with rfl | ⟨init, c, rfl⟩
  · simp [encodePath]
  rw [List.concat_eq_append] at last ⊢
  rw [List.getLast?_concat] at last
  have other : c ≠ '/' := by simpa using last
  have one : encodePath [c] = encode [c] := (encodePath_cons other []).trans (List.append_nil _)
  have given : encode [c] ≠ [] := encode_ne_nil (by simp)
  rw [encodePath_append, one, List.getLast?_append_of_ne_nil _ given]
  exact fun slash => not_mem_encode (by decide) (by decide) [c] (List.mem_of_getLast? slash)

/-- Only the empty text is encoded as the empty part. -/
theorem encodePath_ne_nil {text : Text} (given : text ≠ []) : encodePath text ≠ [] := by
  intro empty
  have back := decode_encodePath text
  rw [empty] at back
  exact given back.symm

end Encoding

/-! ## The longest run -/

/-- As many characters as possible, at least one. -/
def longestExpr : Expr := .loop 1 none .greedy (.sequence [.any])

/-- The ends of the longest run of characters, the furthest first. -/
def longestEnds (flags : Flags) (spot : Spot) : List Spot :=
  ((Place.run (fun c => flags.dotAll || c != '\n') none spot.before spot.after).drop 1).reverse.map
    spot.goTo

/-- The expression for a path has these ends. -/
theorem lists_longestExpr (flags : Flags) :
    ((Expr.sequence [longestExpr]).matcher flags .undecided).Lists (longestEnds flags) := by
  have lists := lists_chars_greedy ⟨fun c => flags.dotAll || c != '\n', false⟩ 1
  have alone := lists.seq lists_id
  simp only [List.flatMap_singleton'] at alone
  exact alone

/-- A run of characters that are all accepted reaches the end of the text. -/
theorem Regex.Place.getLast?_run {accepts : Char → Bool} {after : Text}
    (all : ∀ c ∈ after, accepts c = true) (before : Text) :
    (Place.run accepts none before after).getLast? = some ⟨after.reverse ++ before, []⟩ := by
  induction after generalizing before with
  | nil => rfl
  | cons c after ih =>
    obtain ⟨first, others⟩ := List.forall_mem_cons.1 all
    have later := ih others (c :: before)
    rw [Place.run]
    simp only [Option.all_none, first, Bool.and_self, if_true, Option.map_none]
    rw [List.getLast?_cons, later]
    simp

/-- In one line, the first end of the longest run is the end of the text. -/
theorem head?_longestEnds (flags : Flags) {spot : Spot} (oneLine : '\n' ∉ spot.after)
    (given : spot.after ≠ []) :
    (longestEnds flags spot).head? = some (spot.advance spot.after []) := by
  obtain ⟨⟨before, after⟩, slots⟩ := spot
  obtain ⟨c, rest, rfl⟩ := List.exists_cons_of_ne_nil given
  have all : ∀ d ∈ c :: rest, (flags.dotAll || d != '\n') = true := by
    intro d found
    have other : d ≠ '\n' := by
      rintro rfl
      exact oneLine found
    simp [other]
  have last := Place.getLast?_run (List.forall_mem_cons.1 all).2 (c :: before)
  have first := all c (List.mem_cons_self ..)
  simp only [longestEnds, Place.run, Option.all_none, first, Bool.and_self, if_true,
    Option.map_none, List.drop_succ_cons, List.drop_zero, List.head?_map, List.head?_reverse, last]
  simp [Spot.goTo, Spot.advance]

/-- Without a character there is no run. -/
theorem longestEnds_nil {flags : Flags} {spot : Spot} (none : spot.after = []) :
    longestEnds flags spot = [] := by
  rw [longestEnds, none]
  rfl

/-! ## Routes -/

/-- A parameter that takes the rest of a path after a literal segment. -/
def pathBetween (literal name : Text) : Between where
  before := '/' :: literal
  lead := some '/'
  name := name
  regex := ".+".toList
  converter := Route.pathConverter
  after := []

/-- A pattern with a parameter that takes the rest of a path. -/
def pathPattern (literal name : Text) : Text :=
  '/' :: literal ++ ['/'] ++ '\x7b' :: (name ++ ":path\x7d".toList)

/-- A text less one slash at its end. -/
def withoutLastSlash (text : Text) : Text :=
  if text.getLast? = some '/' then text.dropLast else text

section Routes

variable {literal name value : Text} {options : Options}

/-- The literal text and the slash of the parameter are in front of it. -/
theorem front_pathBetween (literal name : Text) :
    (pathBetween literal name).front = '/' :: literal ++ ['/'] := rfl

/-- A pattern with a parameter for a path is cut into its tokens. -/
theorem tokenize_pathPattern (letters : ∀ c ∈ literal, c.isAlphanum = true) (named : IsName name)
    {own : Converters} (plain : own = Table.empty) :
    tokenize own (pathPattern literal name) = .ok (pathBetween literal name).tokens := by
  have readable : (pathBetween literal name).IsReadable :=
    { before := by
        intro c found
        have signs := of_isAlphanum_or_sign (c := c) (by
          rcases List.mem_cons.1 found with rfl | found
          · exact .inr (by decide)
          · exact .inl (letters c found))
        exact ⟨signs.1, signs.2.1⟩
      lead := .inr (.inl rfl)
      lone := fun none => absurd none (by simp [pathBetween])
      after := fun c found => absurd found List.not_mem_nil
      ends := fun c found => absurd found (by simp [pathBetween]) }
  have known (pattern : Text) : converterRegex (Converters.extended own) pattern name
      Route.pathConverter = .ok ".+".toList := by
    have found : (Converters.extended own).get? Route.pathConverter =
        some ⟨".+".toList, .text⟩ := by
      rw [plain]
      rfl
    simp only [converterRegex, found]
    exact congrArg Except.ok (by decide)
  have given : Route.pathConverter ≠ [] := by decide
  have chars : ∀ c ∈ Route.pathConverter, inBraceConverter c = true :=
    Text.forall_mem_iff_all.2 (by decide)
  have bare : Text.strip Route.pathConverter = Route.pathConverter := by decide
  exact readable.tokenize_braces named given chars bare known

/-- All the rest of a path in one line is captured. -/
theorem find_pathBetween (literal name : Text) (options : Options) (source : Text) {rest : Text}
    (oneLine : '\n' ∉ rest) (given : rest ≠ []) :
    ∃ found, ((pathBetween literal name).program options source longestExpr).find
        ('/' :: literal ++ ['/'] ++ rest) = some found ∧ found.captures = [some rest] := by
  have whole : rest ++ (pathBetween literal name).after = rest := List.append_nil rest
  have head : (longestEnds options.flags ((pathBetween literal name).start rest)).head? =
      some (((pathBetween literal name).start rest).advance rest []) :=
    head?_longestEnds options.flags oneLine given
  obtain ⟨others, ends⟩ := List.head?_eq_some_iff.1 head
  have goes : ((pathBetween literal name).goOn options
      (((pathBetween literal name).start rest).advance rest [])).map (·.slots) =
        some ((((pathBetween literal name).start rest).advance rest []).closeGroup 1).slots :=
    Between.goOn_after rfl
  obtain ⟨ended, here, -⟩ := Option.map_eq_some_iff.1 goes
  have taken := (pathBetween literal name).find_taken (lists_longestExpr options.flags) source rest
  rw [whole] at taken
  refine taken ?_
  rw [ends, List.findSome?_cons, here]
  exact here.symm

/-- Without a rest of the path there is no match. -/
theorem find_pathBetween_nil (literal name source : Text) :
    ((pathBetween literal name).program options source longestExpr).find
      ('/' :: literal ++ ['/']) = none := by
  have nowhere : (longestEnds options.flags ((pathBetween literal name).start [])).findSome?
      ((pathBetween literal name).goOn options) = none := by
    rw [longestEnds_nil rfl]
    rfl
  have missed := (pathBetween literal name).find_eq_none (lists_longestExpr options.flags) source []
    nowhere
  rwa [List.append_nil] at missed

/-! ## Normalizing -/

/-- A text less a slash is not longer. -/
theorem length_withoutLastSlash_le (text : Text) :
    (withoutLastSlash text).length ≤ text.length := by
  unfold withoutLastSlash
  split
  · rw [List.length_dropLast]
    omega
  · exact Nat.le_refl _

/-- Only a text that does not end in a slash is kept as it is. -/
theorem withoutLastSlash_eq_self_iff :
    withoutLastSlash value = value ↔ value.getLast? ≠ some '/' := by
  unfold withoutLastSlash
  split
  · next slash =>
    refine iff_of_false (fun same => ?_) (fun other => other slash)
    obtain ⟨init, rfl⟩ := List.getLast?_eq_some_iff.1 slash
    have shorter := congrArg List.length same
    rw [List.dropLast_concat, List.length_append] at shorter
    exact absurd shorter (by simp)
  · next other => exact iff_of_true rfl other

/-- Normalizing takes a slash from the end of a value behind other text. -/
theorem normalizePath_encodePath {front : Text} (first : front.head? = some '/')
    (given : value ≠ []) :
    normalizePath (front ++ encodePath value) = front ++ encodePath (withoutLastSlash value) := by
  obtain ⟨rest, rfl⟩ := List.head?_eq_some_iff.1 first
  unfold withoutLastSlash
  split
  · next slash =>
    obtain ⟨init, rfl⟩ := List.getLast?_eq_some_iff.1 slash
    have last : encodePath ['/'] = ['/'] := encodePath_slash []
    rw [List.dropLast_concat, encodePath_append, last, ← List.append_assoc]
    exact normalizePath_concat_slash rfl
  · next other =>
    have last : ('/' :: rest ++ encodePath value).getLast? ≠ some '/' := by
      rw [List.getLast?_append_of_ne_nil _ (encodePath_ne_nil given)]
      exact getLast?_encodePath other
    exact normalizePath_eq_self_iff.2 ⟨rfl, fun slash => absurd slash last⟩

/-- A part of a path belongs to the path of a URL. -/
theorem inPath_encodePath (text : Text) : ∀ c ∈ encodePath text, Parts.inPath c = true := by
  intro c found
  by_cases slash : c = '/'
  · rw [slash]
    decide
  · have free : c ∉ pathBreaks := fun broken => not_mem_encodePath broken slash text found
    exact (inUrl_of_not_mem_pathBreaks free).2

/-- Behind a literal segment a value only loses a slash at its end. -/
theorem normalize_pathBetween (letters : ∀ c ∈ literal, c.isAlphanum = true) (given : literal ≠ [])
    (full : value ≠ []) :
    normalize ('/' :: literal ++ ['/'] ++ encodePath value) =
      '/' :: literal ++ ['/'] ++ encodePath (withoutLastSlash value) := by
  have single : ¬ ['/', '/'] <+: '/' :: (literal ++ '/' :: encodePath value) := by
    rw [two_prefix_cons_iff]
    obtain ⟨c, rest, rfl⟩ := List.exists_cons_of_ne_nil given
    intro slash
    obtain rfl : c = '/' := Option.some.inj slash
    exact absurd (letters '/' (List.mem_cons_self ..)) (by decide)
  have inside : ∀ d ∈ '/' :: (literal ++ '/' :: encodePath value), Parts.inPath d = true := by
    intro d found
    rcases List.mem_cons.1 found with rfl | found
    · decide
    · rcases List.mem_append.1 found with first | later
      · exact (of_isAlphanum_or_sign (.inl (letters d first))).2.2.1
      · rcases List.mem_cons.1 later with rfl | inside
        · decide
        · exact inPath_encodePath value d inside
  have text : '/' :: literal ++ ['/'] ++ encodePath value =
      '/' :: (literal ++ '/' :: encodePath value) := by simp
  have path : (Parts.read ('/' :: literal ++ ['/'] ++ encodePath value)).path =
      '/' :: literal ++ ['/'] ++ encodePath value := by
    rw [text, path_read_single single, List.takeWhile_eq_self_iff.2 inside]
  have result : normalize ('/' :: literal ++ ['/'] ++ encodePath value) =
      normalizePath (Parts.read ('/' :: literal ++ ['/'] ++ encodePath value)).path := rfl
  rw [result, path]
  exact normalizePath_encodePath rfl full

/-- An authority in front of a path ends where a segment does. -/
theorem dropWhile_inAuthority_encodePath (text : Text) :
    (encodePath text).dropWhile Parts.inAuthority = encodePath (text.dropWhile (· != '/')) := by
  induction text with
  | nil => rfl
  | cons c text ih =>
    by_cases slash : c = '/'
    · subst slash
      rw [encodePath_slash, List.dropWhile_cons_of_neg (by decide),
        List.dropWhile_cons_of_neg (by decide), encodePath_slash]
    · have inside : ∀ d ∈ Percent.encode [c], Parts.inAuthority d = true := by
        intro d found
        have free : d ∉ pathBreaks :=
          fun broken => Percent.not_mem_encode_of_break broken [c] found
        exact (inUrl_of_not_mem_pathBreaks free).1
      rw [encodePath_cons slash, List.dropWhile_append_of_pos inside, ih,
        List.dropWhile_cons_of_pos (by simpa using slash)]

/-- What starts with two slashes loses more than a slash: the first of its segments is read as an
authority. -/
theorem exists_normalize_double (given : value ≠ []) :
    ∃ later, normalize ('/' :: '/' :: encodePath value) = '/' :: encodePath later ∧
      later.length < value.length := by
  have result : normalize ('/' :: '/' :: encodePath value) =
      normalizePath (encodePath (value.dropWhile (· != '/'))) := by
    have path := path_read_double (encodePath value)
    rw [dropWhile_inAuthority_encodePath,
      List.takeWhile_eq_self_iff.2 (inPath_encodePath _)] at path
    rw [← path]
    rfl
  have size := (List.dropWhile_suffix (p := (· != '/')) (l := value)).length_le
  rw [result]
  -- What is left of the value starts with its first slash, if it has one.
  cases cut : value.dropWhile (· != '/') with
  | nil => exact ⟨[], rfl, List.length_pos_of_ne_nil given⟩
  | cons c rest =>
    have slash : c = '/' := by
      have stop := List.head?_dropWhile_not (· != '/') value
      rw [cut] at stop
      simpa using stop
    subst slash
    rw [cut, List.length_cons] at size
    rw [encodePath_slash]
    by_cases empty : rest = []
    · exact ⟨[], by rw [empty]; rfl, by simpa using List.length_pos_of_ne_nil given⟩
    · have shorter := length_withoutLastSlash_le rest
      have closed : normalizePath (['/'] ++ encodePath rest) =
          ['/'] ++ encodePath (withoutLastSlash rest) := normalizePath_encodePath rfl empty
      exact ⟨withoutLastSlash rest, closed, by omega⟩

/-! ## Parameters -/

/-- A pattern with a parameter for a path makes a route. -/
theorem exists_make_pathPattern (letters : ∀ c ∈ literal, c.isAlphanum = true)
    (named : IsName name) {settings : Settings}
    (plain : settings.options.converters = Table.empty) (label : Text) :
    ∃ route source,
      Route.make (.pattern (pathPattern literal name)) settings label = .ok route ∧
      route.settings = settings ∧ route.tokens? = some (pathBetween literal name).tokens ∧
      (pathBetween literal name).Compiles route source longestExpr := by
  have cut := tokenize_pathPattern letters named plain
  have reads : Reads ".+".toList 0 fun _ => [longestExpr] := Reads.anything (.inr ⟨rfl, rfl⟩)
  have bare : (".+".toList : Text).head? ≠ some '?' := by decide
  have back : (pathBetween literal name).after.getLast? ≠ some '/' := by simp [pathBetween]
  have last : (pathPattern literal name).getLast? ≠ some '/' := by
    have brace : pathPattern literal name =
        ('/' :: literal ++ ['/'] ++ '\x7b' :: (name ++ ":path".toList)) ++ ['\x7d'] := by
      simp [pathPattern]
    rw [brace, List.getLast?_concat]
    decide
  exact Between.exists_make cut reads bare rfl back last label

variable {route : Route} {source path rest : Text}

/-- The rest of a normalized path is the value of the parameter. -/
theorem params_pathBetween (plain : route.settings.options.converters = Table.empty)
    (compiles : (pathBetween literal name).Compiles route source longestExpr) (given : path ≠ [])
    (normal : normalize path = '/' :: literal ++ ['/'] ++ encodePath rest) (full : rest ≠ [])
    (convert : Bool) :
    ∃ params, route.params path convert = .ok params ∧
      params.named.get? name = some (.text rest) := by
  have oneLine : '\n' ∉ encodePath rest := not_mem_encodePath (by decide) (by decide) rest
  obtain ⟨found, matched, captures⟩ := find_pathBetween literal name route.settings.options source
    oneLine (encodePath_ne_nil full)
  have here : route.find path = some found := by
    rw [compiles.find_eq, normal, matched]
  have converted : route.converters.convert Route.pathConverter rest = .ok (.text rest) := by
    rw [Route.converters, plain]
    rfl
  exact compiles.params_of_find converted given here captures (decode_encodePath rest) convert

/-- Without a rest of the normalized path there is no match. -/
theorem find_pathBetween_of_empty
    (compiles : (pathBetween literal name).Compiles route source longestExpr)
    (normal : normalize path = '/' :: literal ++ ['/'] ++ encodePath []) :
    route.find path = none := by
  have nothing : encodePath [] = [] := rfl
  rw [compiles.find_eq, normal, nothing, List.append_nil]
  exact find_pathBetween_nil literal name source

/-- Behind an empty literal the value of the parameter is shorter than the value that was given. -/
theorem params_pathBetween_nil (plain : route.settings.options.converters = Table.empty)
    (compiles : (pathBetween [] name).Compiles route source longestExpr) (given : value ≠ [])
    (convert : Bool) :
    ¬ ∃ params, route.params ('/' :: '/' :: encodePath value) convert = .ok params ∧
      params.named.get? name = some (.text value) := by
  rintro ⟨params, taken, back⟩
  obtain ⟨later, normal, shorter⟩ := exists_normalize_double given
  -- The parameter takes what comes after a second slash of the normalized path, if there is one.
  have found : route.find ('/' :: '/' :: encodePath value) ≠ none := by
    intro missed
    rw [Between.params_of_find_eq_none (by simp) missed] at taken
    exact absurd taken (by simp)
  have slashed : ['/', '/'] <+: '/' :: encodePath later := by
    by_contra other
    refine found ?_
    have each : ∀ c ∈ (pathBetween [] name).front, c = '/' := by simp [front_pathBetween]
    rw [compiles.find_eq, normal]
    exact Between.find_eq_none_of_slashes (lists_longestExpr _) each source other
  obtain ⟨rest, rfl⟩ := exists_cons_of_head?_encodePath (two_prefix_cons_iff.1 slashed)
  rw [encodePath_slash] at normal
  cases rest with
  | nil => exact found (find_pathBetween_of_empty compiles normal)
  | cons d rest =>
    obtain ⟨others, parsed, own⟩ :=
      params_pathBetween plain compiles (by simp) normal (List.cons_ne_nil d rest) convert
    obtain rfl : others = params := Except.ok.inj (parsed.symm.trans taken)
    obtain rfl : value = d :: rest := by simpa using back.symm.trans own
    simp at shorter

end Routes

/-- A parameter for a path after a literal segment gives back the value that a path is resolved
with, less one slash at its end; a value that is this slash alone is resolved to a path that is not
matched. So a value comes back exactly if it does not end in a slash. Behind an empty literal, which
leaves two slashes at the start of the path, no value does. -/
theorem params_resolve_path {literal name value : Text} {settings : Settings}
    {entries : List (Datum × Datum)} (letters : ∀ c ∈ literal, c.isAlphanum = true)
    (named : IsName name) (given : value ≠ [])
    (plain : settings.options.converters = Table.empty)
    (looked : Datum.lookup entries name = some (.text value)) (label : Text) :
    ∃ route resolved, Route.make (.pattern (pathPattern literal name)) settings label = .ok route ∧
      route.resolve (.dict entries) .null [] = .ok resolved ∧
      (literal ≠ [] → withoutLastSlash value ≠ [] → ∀ convert, ∃ params,
        route.params resolved convert = .ok params ∧
        params.named.get? name = some (.text (withoutLastSlash value))) ∧
      (literal ≠ [] → withoutLastSlash value = [] → ∀ convert,
        route.params resolved convert = .error (.noMatch route.name resolved)) ∧
      ∀ convert, (∃ params, route.params resolved convert = .ok params ∧
        params.named.get? name = some (.text value)) ↔
          literal ≠ [] ∧ value.getLast? ≠ some '/' := by
  obtain ⟨route, source, made, rfl, tokens, compiles⟩ :=
    exists_make_pathPattern letters named plain label
  have resolved := Between.resolve_eq tokens given looked (encodeSegment_path value)
    (by simp [front_pathBetween])
  have text : (pathBetween literal name).front ++
      (encodePath value ++ (pathBetween literal name).after) =
        '/' :: literal ++ ['/'] ++ encodePath value := by
    rw [front_pathBetween, show (pathBetween literal name).after = [] from rfl, List.append_nil]
  rw [text] at resolved
  have path : '/' :: literal ++ ['/'] ++ encodePath value ≠ [] := by simp
  have back (letter : literal ≠ []) (full : withoutLastSlash value ≠ []) (convert : Bool) :=
    params_pathBetween plain compiles path (normalize_pathBetween letters letter given) full convert
  have none (letter : literal ≠ []) (empty : withoutLastSlash value = []) (convert : Bool) :
      route.params ('/' :: literal ++ ['/'] ++ encodePath value) convert =
        .error (.noMatch route.name ('/' :: literal ++ ['/'] ++ encodePath value)) := by
    have normal := normalize_pathBetween letters letter given
    rw [empty] at normal
    exact Between.params_of_find_eq_none path (find_pathBetween_of_empty compiles normal) convert
  refine ⟨route, _, made, resolved, back, none, fun convert => ⟨?_, ?_⟩⟩
  -- The value that comes back is known, so it is compared with the one that was given.
  · rintro ⟨params, taken, same⟩
    have letter : literal ≠ [] := by
      rintro rfl
      exact params_pathBetween_nil plain compiles given convert ⟨params, taken, same⟩
    refine ⟨letter, withoutLastSlash_eq_self_iff.1 ?_⟩
    by_cases empty : withoutLastSlash value = []
    · rw [none letter empty] at taken
      exact absurd taken (by simp)
    · obtain ⟨others, parsed, own⟩ := back letter empty convert
      obtain rfl : others = params := Except.ok.inj (parsed.symm.trans taken)
      simpa using own.symm.trans same
  · rintro ⟨letter, other⟩
    have kept := withoutLastSlash_eq_self_iff.2 other
    have full : withoutLastSlash value ≠ [] := by rwa [kept]
    have taken := back letter full convert
    rwa [kept] at taken

/-- The slashes in a value come back, but for the one at its end. -/
theorem params_resolve_path_files :
    ∃ route resolved params,
      Route.make (.pattern "/files/\x7brest:path\x7d".toList) Settings.standard [] = .ok route ∧
      route.resolve (.dict [(.text "rest".toList, .text "/a b//c/".toList)]) .null [] =
        .ok resolved ∧
      route.params resolved true = .ok params ∧
      params.named.get? "rest".toList = some (.text "/a b//c".toList) ∧
      ¬ ∃ params, route.params resolved true = .ok params ∧
        params.named.get? "rest".toList = some (.text "/a b//c/".toList) := by
  have letters : ∀ c ∈ "files".toList, c.isAlphanum = true := Text.forall_mem_iff_all.2 (by decide)
  have named : IsName "rest".toList := by decide
  have full : "/a b//c/".toList ≠ [] := by decide
  have plain : Settings.standard.options.converters = Table.empty := rfl
  have looked : Datum.lookup [(.text "rest".toList, .text "/a b//c/".toList)] "rest".toList =
      some (.text "/a b//c/".toList) := rfl
  obtain ⟨route, resolved, made, written, back, -, whole⟩ :=
    params_resolve_path letters named full plain looked []
  obtain ⟨params, parsed, value⟩ := back (by decide) (by decide) true
  exact ⟨route, resolved, params, made, written, parsed, value,
    fun found => absurd ((whole true).1 found).2 (by decide)⟩

end RoutePattern
