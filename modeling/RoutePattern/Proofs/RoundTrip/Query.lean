import RoutePattern.Proofs.QueryText
import RoutePattern.Proofs.RoundTrip.Resolved
import RoutePattern.Proofs.Url.Delimited

/-!
# Queries of resolved paths

The query of a path that a route has resolved is read from the whole path, decoded once, and each
value is decoded again (`readPairs_written`). So a value comes back as it was given exactly if it
holds no escape of its own (`params_resolve_query_iff`).
-/
namespace RoutePattern

open Percent

/-! ## The query of a decoded path -/

/-- A pair as it stands in a decoded path. -/
def guardedPair (pair : Text × Text) : Text := guarded pair.1 ++ '=' :: guarded pair.2

/-- A name of a query: letters and digits of ASCII. -/
def IsQueryName (name : Text) : Prop := ∀ c ∈ name, c.isAlphanum = true

/-- No delimiter stands in the name of a pair. -/
theorem IsQueryName.free {name : Text} (named : IsQueryName name) :
    ∀ c ∈ name, c ∉ delimiters := by
  intro c found
  refine Text.ascii_forall (fun c => c.isAlphanum = true → c ∉ delimiters) ?_
    (Text.toNat_lt_of_isAlphanum (named c found)) (named c found)
  decide

/-- Delimiters besides the equals sign do not stand in a pair. -/
theorem not_mem_guardedPair {c : Char} (delimiter : c ∈ delimiters) (other : c ≠ '=')
    (pair : Text × Text) : c ∉ guardedPair pair := by
  simp [guardedPair, not_mem_guarded delimiter, other]

/-- Delimiters besides the two of a query do not stand between or in its pairs. -/
theorem not_mem_join_guardedPair {c : Char} (delimiter : c ∈ delimiters) (apart : c ≠ '=')
    (other : c ≠ '&') (pairs : List (Text × Text)) :
    c ∉ Text.join ['&'] (pairs.map guardedPair) := by
  intro found
  rcases Text.mem_join found with between | ⟨text, member, inside⟩
  · exact other (List.mem_singleton.1 between)
  · obtain ⟨pair, -, rfl⟩ := List.mem_map.1 member
    exact not_mem_guardedPair delimiter apart pair inside

/-- A pair of a decoded path is read with its value decoded again. -/
theorem readPair_guarded {pair : Text × Text} (named : IsQueryName pair.1) :
    Query.readPair (guardedPair pair) = (pair.1, decode pair.2) := by
  have sign {text : Text} : '=' ∉ guarded text := not_mem_guarded (by decide) text
  have cut : Text.split '=' (guardedPair pair) = [guarded pair.1, guarded pair.2] := by
    rw [guardedPair, Text.split_append_cons sign, Text.split_eq_singleton sign]
  rw [Query.readPair, cut, guarded_eq_self named.free]
  exact congrArg (pair.1, ·) (decode_guarded pair.2)

/-- The pairs of a decoded path are read with their values decoded again. -/
theorem readPairs_guarded {pairs : List (Text × Text)} (named : ∀ pair ∈ pairs, IsQueryName pair.1)
    (distinct : (pairs.map (·.1)).Nodup) :
    (Query.readPairs (Text.join ['&'] (pairs.map guardedPair))).entries =
      pairs.map fun pair => (pair.1, decode pair.2) := by
  have given (pair : Text × Text) : guardedPair pair ≠ [] := by simp [guardedPair]
  have free (pair : Text × Text) : '&' ∉ guardedPair pair :=
    not_mem_guardedPair (by decide) (by decide) pair
  exact Query.entries_readPairs_join given free
    (fun pair found => readPair_guarded (named pair found)) distinct

/-- Pairs of a query are decoded with their URL to guarded pairs. -/
theorem decodeUri_pairs (pairs : List (Text × Text)) :
    decodeUri (Text.join ['&'] (pairs.map Query.writePair)) =
      Text.join ['&'] (pairs.map guardedPair) := by
  have one (pair : Text × Text) : decodeUri (Query.writePair pair) = guardedPair pair := by
    rw [Query.writePair, decodeUri_append_cons (by decide), decodeUri_encode, decodeUri_encode]
    rfl
  rw [decodeUri_join (by decide), List.map_map]
  exact congrArg _ (List.map_congr_left fun pair _ => one pair)

/-- Segments of a path are decoded with their URL to guarded segments. -/
theorem decodeUri_slashed (texts : List Text) (rest : Text) :
    decodeUri (slashed (texts.map encode) ++ rest) =
      slashed (texts.map guarded) ++ decodeUri rest := by
  induction texts with
  | nil => rfl
  | cons text texts ih =>
    rw [List.map_cons, List.map_cons, slashed_cons, slashed_cons, List.cons_append,
      List.append_assoc, decodeUri_plain (by decide), decodeUri_encode_append, ih,
      List.cons_append, List.append_assoc]

/-- The query of a written path holds the pairs with their values decoded once more. -/
theorem readPairs_written {texts : List Text} {pairs : List (Text × Text)}
    (named : ∀ pair ∈ pairs, IsQueryName pair.1) (distinct : (pairs.map (·.1)).Nodup) :
    (Query.readPairs (Route.queryPart
        (decodeUri (slashed (texts.map encode) ++ Query.write pairs)))).entries =
      pairs.map fun pair => (pair.1, decode pair.2) := by
  -- The path is decoded along with the query, and no segment of it may bring a question mark.
  have path : '?' ∉ slashed (texts.map guarded) := by
    intro found
    obtain ⟨segment, member, inside⟩ := List.mem_flatMap.1 found
    obtain ⟨text, -, rfl⟩ := List.mem_map.1 member
    rcases List.mem_cons.1 inside with same | inside
    · exact absurd same (by decide)
    · exact not_mem_guarded (by decide) text inside
  rw [decodeUri_slashed, Route.queryPart_eq_before, Route.queryText]
  cases pairs with
  | nil =>
    have none : '?' ∉ slashed (texts.map guarded) ++ decodeUri (Query.write []) := by
      simpa [Query.write, decodeUri, pieces, decodeFrom, Utf8.flush] using path
    rw [Text.after_eq_nil none]
    rfl
  | cons pair pairs =>
    have marked : decodeUri (Query.write (pair :: pairs)) =
        '?' :: Text.join ['&'] ((pair :: pairs).map guardedPair) := by
      rw [Query.write, List.isEmpty_cons, if_neg Bool.false_ne_true, decodeUri_plain (by decide),
        decodeUri_pairs]
    have free {c : Char} (delimiter : c ∈ delimiters) (apart : c ≠ '=') (other : c ≠ '&') :=
      not_mem_join_guardedPair delimiter apart other (pair :: pairs)
    rw [marked, (Text.before_append_cons path _).2,
      Text.before_eq_self_iff.2 (free (by decide) (by decide) (by decide)),
      Text.before_eq_self_iff.2 (free (by decide) (by decide) (by decide))]
    exact readPairs_guarded named distinct

/-! ## Routes of literals and parameters -/

namespace SegmentItem

/-- A literal of letters and digits of ASCII, or a parameter of one segment after a colon. -/
def IsSimple : SegmentItem → Prop
  | literal text => text ≠ [] ∧ ∀ c ∈ text, c.isAlphanum = true
  | parameter kind name => kind = .colon .once ∧ name ≠ [] ∧ ∀ c ∈ name, isNameChar c = true

variable {item : SegmentItem}

/-- Letters and digits of ASCII do not break a literal or a path, and are not encoded. -/
theorem IsSimple.alphanum {text : Text} (simple : (literal text).IsSimple) :
    ∀ c ∈ text, c ∉ literalBreaks ∧ c ≠ '?' ∧ c ≠ '#' ∧ isUnreserved c = true := by
  intro c found
  refine Text.ascii_forall (fun c => c.isAlphanum = true → c ∉ literalBreaks ∧ c ≠ '?' ∧ c ≠ '#' ∧
    isUnreserved c = true) ?_ (Text.toNat_lt_of_isAlphanum (simple.2 c found)) (simple.2 c found)
  decide

/-- A simple item stands for one segment. -/
theorem IsSimple.single (simple : item.IsSimple) : item.IsSingle := by
  cases item with
  | literal text =>
    refine ⟨simple.1, fun c found => ?_⟩
    obtain ⟨unbroken, mark, sign, -⟩ := simple.alphanum c found
    exact ⟨unbroken, mark, sign⟩
  | parameter kind name => exact simple

/-- The text that an item stands for. -/
def content (assigned : Text → Text) : SegmentItem → Text
  | literal text => text
  | parameter _ name => assigned name

/-- The segment of a simple item is the component of the text it stands for. -/
theorem IsSimple.segment_eq (simple : item.IsSimple) (assigned : Text → Text) :
    item.segment assigned = encode (item.content assigned) := by
  cases item with
  | literal text =>
    rw [content, encode_unreserved fun c found => (simple.alphanum c found).2.2.2]
    rfl
  | parameter kind name => rfl

end SegmentItem

section Simple

variable {items : List SegmentItem} {assigned : Text → Text} {route : Route}

/-- The texts of the segments of a path; without an item, the path is the root. -/
def contents (items : List SegmentItem) (assigned : Text → Text) : List Text :=
  if items.isEmpty then [[]] else items.map (SegmentItem.content assigned)

/-- The segments of simple items are the components of their texts. -/
theorem map_segment (simple : ∀ item ∈ items, item.IsSimple) (assigned : Text → Text) :
    items.map (SegmentItem.segment assigned) =
      (items.map (SegmentItem.content assigned)).map encode := by
  rw [List.map_map]
  exact List.map_congr_left fun item found => (simple item found).segment_eq assigned

/-- A route of simple items writes the components of their texts, in front of a query. -/
theorem resolve_simple (simple : ∀ item ∈ items, item.IsSimple)
    (source : route.source = .pattern (items.flatMap SegmentItem.text))
    {entries : List (Datum × Datum)}
    (filled : ∀ name ∈ items.filterMap SegmentItem.name?, assigned name ≠ [] ∧
      Datum.lookup entries name = some (.text (assigned name)))
    (query : Datum) (fragment : Text) :
    route.resolve (.dict entries) query fragment =
      Route.writeUrl (slashed ((contents items assigned).map encode)) query fragment := by
  cases items with
  | nil =>
    have tokens : route.tokens? = some [] := by
      rw [Route.tokens?, source]
      rfl
    rw [Route.resolve, tokens]
    rfl
  | cons item items =>
    have written := resolve_single (fun item found => (simple item found).single)
      (List.cons_ne_nil item items) source filled query fragment
    rw [written, map_segment simple]
    rfl

/-- The root is its own normalized form, whatever query comes after it. -/
theorem normalize_root {rest : Text} (after : AfterPath rest) : normalize ('/' :: rest) = ['/'] := by
  have path : (Parts.read ('/' :: rest)).path = ['/'] :=
    @path_read [] rest (by simp) (by simp) after
  rw [normalize, List.isEmpty_cons, if_neg Bool.false_ne_true, path]
  rfl

/-- A route of no items finds the root, unless it has to match all of it without a slash. -/
theorem find_root {options : Options} (loose : ¬ (options.strict = true ∧ options.whole = true))
    (source : Text) : ((itemsProgram options source []).find ['/']).isSome = true := by
  obtain ⟨sensitive, strict, whole, converters⟩ := options
  cases sensitive <;> cases strict <;> cases whole <;> first | rfl | exact absurd ⟨rfl, rfl⟩ loose

/-- A route of simple items matches the path that it writes. -/
theorem test_simple (simple : ∀ item ∈ items, item.IsSimple)
    (rooted : items = [] →
      ¬ (route.settings.options.strict = true ∧ route.settings.options.whole = true))
    (given : ∀ name ∈ items.filterMap SegmentItem.name?, assigned name ≠ []) {source : Text}
    (compiled : route.compiled =
      ⟨itemsProgram route.settings.options source items, items.filterMap SegmentItem.key?⟩)
    {rest : Text} (after : AfterPath rest) :
    route.test (slashed ((contents items assigned).map encode) ++ rest) = true := by
  cases items with
  | nil =>
    rw [Route.test, Route.find, compiled,
      show slashed ((contents [] assigned).map encode) ++ rest = '/' :: rest from rfl,
      normalize_root after]
    exact find_root (rooted rfl) source
  | cons item items =>
    obtain ⟨found, matched, -⟩ := find_single (fun item found => (simple item found).single)
      (List.cons_ne_nil item items) compiled given after
    rw [map_segment simple] at matched
    rw [Route.test, show contents (item :: items) assigned =
      (item :: items).map (SegmentItem.content assigned) from rfl, matched]
    rfl

end Simple

/-- A route of literals and parameters gives back the query that a path is resolved with, in its
order and with each value decoded once more. It is the query itself exactly if no value holds an
escape. -/
theorem params_resolve_query_iff {items : List SegmentItem} {settings : Settings}
    {assigned : Text → Text} {entries : List (Datum × Datum)} {pairs : List (Text × Text)}
    (simple : ∀ item ∈ items, item.IsSimple)
    (rooted : items = [] → ¬ (settings.options.strict = true ∧ settings.options.whole = true))
    (filled : ∀ name ∈ items.filterMap SegmentItem.name?, assigned name ≠ [] ∧
      Datum.lookup entries name = some (.text (assigned name)))
    (named : ∀ pair ∈ pairs, IsQueryName pair.1) (distinct : (pairs.map (·.1)).Nodup)
    (name : Text) :
    ∃ route resolved params,
      Route.make (.pattern (items.flatMap SegmentItem.text)) settings name = .ok route ∧
      route.resolve (.dict entries) (.dict (pairs.map fun pair => (.text pair.1, .text pair.2)))
        [] = .ok resolved ∧
      route.params resolved false = .ok params ∧
      params.query.entries = (pairs.map fun pair => (pair.1, decode pair.2)) ∧
      (params.query.entries = pairs ↔ ∀ pair ∈ pairs, IsUnescaped pair.2) := by
  have known : ∀ item ∈ items, item.Known (Converters.extended settings.options.converters) :=
    fun item found => (simple item found).single.known _
  obtain ⟨route, source, made, pattern, rfl, compiled⟩ :=
    make_readable (fun item found => (simple item found).single.readable) known name
  have resolved := resolve_simple simple pattern filled
    (.dict (pairs.map fun pair => (.text pair.1, .text pair.2))) []
  have after : AfterPath (Query.write pairs) := by
    intro c found
    cases pairs with
    | nil => exact absurd found (by simp [Query.write])
    | cons pair pairs =>
      obtain rfl : '?' = c := by simpa [Query.write] using found
      exact .inl rfl
  have matched := test_simple simple rooted (fun name found => (filled name found).1) compiled after
  have given : slashed ((contents items assigned).map encode) ++ Query.write pairs ≠ [] := by
    unfold contents
    cases items <;> simp
  obtain ⟨params, taken, query, -⟩ := Route.params_plain_ok route given matched
  have decoded : params.query.entries = pairs.map fun pair => (pair.1, decode pair.2) := by
    rw [query]
    exact readPairs_written named distinct
  refine ⟨route, _, params, made, ?_, taken, decoded, ?_⟩
  · rw [resolved, writeUrl_eq]
    simp
  · -- The names come back as they are, so the pairs do exactly if each value does.
    have each : (pairs.map fun pair => (pair.1, decode pair.2)) = pairs.map id ↔
        ∀ pair ∈ pairs, (pair.1, decode pair.2) = id pair := List.map_inj_left
    rw [decoded]
    rw [List.map_id] at each
    rw [each]
    constructor
    · intro same pair found
      exact decode_eq_self_iff.1 (congrArg Prod.snd (same pair found))
    · intro unescaped pair found
      exact congrArg (pair.1, ·) (decode_eq_self_iff.2 (unescaped pair found))

/-- The items of a pattern with a literal in front of a parameter. -/
def searchItems : List SegmentItem :=
  [.literal "search".toList, .parameter (.colon .once) "word".toList]

/-- Delimiters in a value come back as they were given, but what reads as an escape does not. -/
theorem params_resolve_query_iff_search :
    ∃ route resolved params,
      Route.make (.pattern "/search/:word".toList) Settings.standard [] = .ok route ∧
      route.resolve (.dict [(.text "word".toList, .text "x y".toList)])
        (.dict [(.text "a".toList, .text "1&2=3".toList), (.text "b".toList, .text "%41".toList)])
        [] = .ok resolved ∧
      route.params resolved false = .ok params ∧
      params.query.entries = [("a".toList, "1&2=3".toList), ("b".toList, "A".toList)] := by
  have simple : ∀ item ∈ searchItems, item.IsSimple := by
    simp only [searchItems, List.forall_mem_cons]
    exact ⟨⟨by decide, Text.forall_mem_iff_all.2 (by decide)⟩,
      ⟨rfl, by decide, Text.forall_mem_iff_all.2 (by decide)⟩, by simp⟩
  have filled : ∀ name ∈ searchItems.filterMap SegmentItem.name?, "x y".toList ≠ [] ∧
      Datum.lookup [(.text "word".toList, .text "x y".toList)] name = some (.text "x y".toList) := by
    intro name found
    obtain rfl : "word".toList = name := by simpa [searchItems, SegmentItem.name?] using found
    exact ⟨by decide, rfl⟩
  have named : ∀ pair ∈ [("a".toList, "1&2=3".toList), ("b".toList, "%41".toList)],
      IsQueryName pair.1 := by
    simp only [List.forall_mem_cons]
    exact ⟨show ∀ c ∈ "a".toList, c.isAlphanum = true from Text.forall_mem_iff_all.2 (by decide),
      show ∀ c ∈ "b".toList, c.isAlphanum = true from Text.forall_mem_iff_all.2 (by decide),
      by simp⟩
  obtain ⟨route, resolved, params, made, written, parsed, query, -⟩ :=
    params_resolve_query_iff simple (fun none => absurd none (by decide)) filled named (by decide) []
  exact ⟨route, resolved, params, made, written, parsed, query⟩

end RoutePattern
