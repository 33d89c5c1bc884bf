import RoutePattern.Datum.Query
import RoutePattern.Proofs.Entries
import RoutePattern.Proofs.Url.Href

/-!
# The two renderings of a query

A record shows its query with the question mark in front of it and without, and a question mark in
front is dropped when a query is read. So both are read as the same table unless the query itself
begins with a question mark: from the rendering without the first mark this second one is dropped,
and it is missing in the name of the first pair. The tables agree all the same where the name of the
first pair comes again with the mark and, if the first pair is not empty, without it
(`UrlRecord.read_renderings`).
-/
namespace RoutePattern

/-- A text that begins with another character than the separator has this character in its first
piece. -/
theorem Text.split_cons {separator c : Char} (other : c ≠ separator) {text piece : Text}
    {pieces : List Text} (cut : split separator text = piece :: pieces) :
    split separator (c :: text) = (c :: piece) :: pieces := by
  rw [split, if_neg other, cut]

namespace Table

variable {α : Type}

/-- The first one of several entries gives a name its value if no later one does. -/
theorem get?_ofList_cons (entry : Text × α) (entries : List (Text × α)) (name : Text) :
    (ofList (entry :: entries)).get? name =
      ((ofList entries).get? name).or (if name = entry.1 then some entry.2 else none) := by
  rw [get?_ofList, get?_ofList, List.reverse_cons, List.lookup_append, lookup_cons_entry]
  rfl

/-- A name has a value in a table of entries exactly if one of them has this name. -/
theorem get?_ofList_eq_none_iff {entries : List (Text × α)} {name : Text} :
    (ofList entries).get? name = none ↔ name ∉ entries.map (·.1) := by
  rw [← Option.not_isSome_iff_eq_none, isSome_get?_iff, names_ofList, List.mem_eraseDups]

end Table

namespace Query

/-- The pairs of pieces of a query, of which empty ones count for nothing. -/
def pairs (pieces : List Text) : List (Text × Text) :=
  (pieces.filter fun piece => !piece.isEmpty).map readPair

/-- A question mark in front of a pair belongs to its name. -/
theorem readPair_mark (piece : Text) :
    readPair ('?' :: piece) = ('?' :: (readPair piece).1, (readPair piece).2) := by
  unfold readPair
  cases cut : Text.split '=' piece with
  | nil => exact absurd cut (Text.split_ne_nil '=' piece)
  | cons name values =>
    rw [Text.split_cons (by decide) cut]
    cases values with
    | nil => rfl
    | cons value values => rfl

/-- The name of the first pair after a question mark comes again later with this mark in front and,
unless the first pair is empty, without it. -/
def FirstComesAgain (rest : Text) : Prop :=
  ∃ first later, Text.split '&' rest = first :: later ∧
    '?' :: (readPair first).1 ∈ (pairs later).map (·.1) ∧
    (first = [] ∨ (readPair first).1 ∈ (pairs later).map (·.1))

/-- A mark in front of a query belongs to the name of its first pair. -/
theorem readPairs_mark {rest first : Text} {later : List Text}
    (cut : Text.split '&' rest = first :: later) :
    readPairs ('?' :: rest) =
      Table.ofList (('?' :: (readPair first).1, (readPair first).2) :: pairs later) := by
  rw [readPairs, Text.split_cons (by decide) cut, List.filter_cons_of_pos (by simp), List.map_cons,
    readPair_mark]
  rfl

/-- A mark in front of a name makes another name. -/
theorem mark_cons_ne (name : Text) : name ≠ '?' :: name := (List.cons_ne_self '?' name).symm

/-- With and without a question mark in front, a query gives all names the same values exactly if the
name of its first pair comes again. -/
theorem get?_readPairs_mark_iff (rest : Text) :
    (∀ name, (readPairs ('?' :: rest)).get? name = (readPairs rest).get? name) ↔
      FirstComesAgain rest := by
  obtain ⟨first, later, cut⟩ := List.exists_cons_of_ne_nil (Text.split_ne_nil '&' rest)
  have comes : FirstComesAgain rest ↔
      '?' :: (readPair first).1 ∈ (pairs later).map (·.1) ∧
        (first = [] ∨ (readPair first).1 ∈ (pairs later).map (·.1)) := by
    constructor
    · rintro ⟨other, others, same, again⟩
      obtain ⟨rfl, rfl⟩ := List.cons.inj (cut.symm.trans same)
      exact again
    · exact fun again => ⟨first, later, cut, again⟩
  have bare (name : Text) : (readPairs rest).get? name =
      ((Table.ofList (pairs later)).get? name).or
        (if first ≠ [] ∧ name = (readPair first).1 then some (readPair first).2 else none) := by
    rw [readPairs, cut]
    by_cases empty : first = []
    · rw [List.filter_cons_of_neg (by simp [empty]), if_neg (fun given => given.1 empty),
        Option.or_none]
      rfl
    · rw [List.filter_cons_of_pos (by simp [empty]), List.map_cons, Table.get?_ofList_cons]
      simp only [ne_eq, empty, not_false_eq_true, true_and]
      rfl
  rw [comes, readPairs_mark cut]
  constructor
  · intro same
    constructor
    · by_contra missing
      have marked := same ('?' :: (readPair first).1)
      have other : ¬ '?' :: (readPair first).1 = (readPair first).1 :=
        fun same => mark_cons_ne _ same.symm
      rw [bare, Table.get?_ofList_cons, Table.get?_ofList_eq_none_iff.2 missing, if_pos rfl,
        if_neg (fun given => other given.2)] at marked
      exact Option.some_ne_none _ marked
    · by_contra missing
      rw [not_or] at missing
      have unmarked := same (readPair first).1
      rw [bare, Table.get?_ofList_cons, Table.get?_ofList_eq_none_iff.2 missing.2,
        if_neg (mark_cons_ne _), if_pos ⟨missing.1, rfl⟩] at unmarked
      exact Option.some_ne_none _ unmarked.symm
  · rintro ⟨marked, unmarked⟩ name
    rw [bare, Table.get?_ofList_cons]
    cases known : (Table.ofList (pairs later)).get? name with
    | some value => rfl
    | none =>
      -- A name that no later pair has is neither of the two.
      have missing := Table.get?_ofList_eq_none_iff.1 known
      have other : ¬ name = '?' :: (readPair first).1 := by
        rintro rfl
        exact missing marked
      have another : ¬ (first ≠ [] ∧ name = (readPair first).1) := by
        rintro ⟨given, rfl⟩
        exact missing (unmarked.resolve_left given)
      rw [if_neg other, if_neg another]

/-- A query that begins with no question mark is read as it stands. -/
theorem read_unmarked {query : Text} (unmarked : query.head? ≠ some '?') :
    Query.read query = Query.readPairs query := by
  unfold Query.read
  split
  · next rest => exact absurd rfl unmarked
  · rfl

end Query

namespace UrlRecord

/-- A query with its question mark is read as it stands without the mark. -/
theorem readQuery_search (url : Text) :
    (Datum.text (read url).search).readQuery = .ok (Query.readPairs (read url).query) := by
  rw [read_eq_ofParts]
  obtain ⟨shown, rest, search, -⟩ :=
    exists_shown (Parts.read url).query ((Parts.read url).fragment.getD [])
  obtain ⟨marked, unmarked, -⟩ := @ofParts_search url _ _ _ _ search
  rw [marked, unmarked]
  cases shown with
  | none => rfl
  | some query => rfl

/-- The table of a record is that of its query. -/
theorem queryObject_eq (url : Text) : (read url).queryObject = Query.read (read url).query := by
  rw [read_eq_ofParts]
  rfl

/-- The query of a record is read as its table. -/
theorem readQuery_query (url : Text) :
    (Datum.text (read url).query).readQuery = .ok (read url).queryObject := by
  rw [queryObject_eq]
  cases (read url).query with
  | nil => rfl
  | cons c query => rfl

/-- The query of a record is always read as its table. Its search part is read as the same table,
in the same order, unless the query itself begins with a question mark; with such a mark both give
all names the same values exactly if the name of the first pair comes again. -/
theorem read_renderings (url : Text) : ∃ fromSearch,
    (Datum.text (read url).search).readQuery = .ok fromSearch ∧
    (Datum.text (read url).query).readQuery = .ok (read url).queryObject ∧
    ((read url).query.head? ≠ some '?' → fromSearch = (read url).queryObject) ∧
    ((∀ name, fromSearch.get? name = (read url).queryObject.get? name) ↔
      ∀ rest, (read url).query = '?' :: rest → Query.FirstComesAgain rest) := by
  refine ⟨_, readQuery_search url, readQuery_query url, fun unmarked => ?_, ?_⟩
  · rw [queryObject_eq, Query.read_unmarked unmarked]
  · rw [queryObject_eq]
    by_cases marked : (read url).query.head? = some '?'
    · obtain ⟨rest, same⟩ := List.head?_eq_some_iff.1 marked
      rw [same, Query.read, Query.get?_readPairs_mark_iff]
      exact ⟨fun again _ cut => List.cons.inj cut |>.2 ▸ again, fun again => again rest rfl⟩
    · rw [Query.read_unmarked marked]
      refine iff_of_true (fun _ => rfl) fun rest same => absurd ?_ marked
      rw [same]
      rfl

/-- A second question mark is part of the first name only where the query is read with the first
one. -/
example : (read "/a??x=1".toList).queryObject.entries = [(['x'], ['1'])] ∧
    (Query.read (read "/a??x=1".toList).search).entries = [(['?', 'x'], ['1'])] := by decide +kernel

end UrlRecord

end RoutePattern
