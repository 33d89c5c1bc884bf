import Mathlib.Data.List.Induction
import RoutePattern.Proofs.Url.Rendered

/-!
# Queries put together

A table is updated with another one name by name: a name that it has keeps its place and takes the
later value, and new names come last (`Table.names_update`, `Table.get?_update`). Setting names one
by one does the same as collecting them in a table first (`Table.update_ofList`). So two queries with
an ampersand between them are read like the first one, updated with the second
(`Query.readPairs_append`), and a pair that is empty updates nothing.
-/
namespace RoutePattern

/-- Two texts with a separator between them are cut into the pieces of the one and the pieces of the
other. -/
theorem Text.split_append_split (separator : Char) (one two : Text) :
    split separator (one ++ separator :: two) = split separator one ++ split separator two := by
  induction one with
  | nil => simp [split]
  | cons c one ih =>
    by_cases here : c = separator
    · simp [split, here, ih]
    · obtain ⟨piece, pieces, cut⟩ := List.exists_cons_of_ne_nil (split_ne_nil separator one)
      rw [cut, List.cons_append] at ih
      rw [List.cons_append, split_cons here ih, split_cons here cut, List.cons_append]

namespace Table

variable {α : Type}

/-! ## Tables with different names -/

/-- Among entries with different names a name has the value of its entry. -/
theorem lookup_eq_some_iff_mem {entries : List (Text × α)} (distinct : (entries.map (·.1)).Nodup)
    {name : Text} {value : α} : entries.lookup name = some value ↔ (name, value) ∈ entries := by
  induction entries with
  | nil => simp
  | cons entry entries ih =>
    obtain ⟨new, others⟩ := List.nodup_cons.1 distinct
    rw [lookup_cons_entry, List.mem_cons]
    split
    · next same =>
      subst same
      have elsewhere : (entry.1, value) ∉ entries := fun found =>
        new (List.mem_map.2 ⟨_, found, rfl⟩)
      simp [Prod.ext_iff, elsewhere, eq_comm]
    · next other =>
      rw [ih others]
      simp [Prod.ext_iff, other]

/-- Among entries with different names the order does not matter for their values. -/
theorem lookup_reverse {entries : List (Text × α)} (distinct : (entries.map (·.1)).Nodup)
    (name : Text) : entries.reverse.lookup name = entries.lookup name := by
  have back : (entries.reverse.map (·.1)).Nodup := by
    rw [List.map_reverse]
    exact List.nodup_reverse.2 distinct
  refine Option.ext fun value => ?_
  rw [lookup_eq_some_iff_mem back, lookup_eq_some_iff_mem distinct, List.mem_reverse]

/-- The entries of a table with different names are its names with their values. -/
theorem filterMap_names {table : Table α} (distinct : table.names.Nodup) :
    table.names.filterMap (fun name => (table.get? name).map (Prod.mk name)) = table.entries := by
  rw [names, List.filterMap_map]
  have each : ∀ entry ∈ table.entries,
      ((fun name => (table.get? name).map (Prod.mk name)) ∘ (·.1)) entry = some entry := by
    intro entry found
    have value : table.get? entry.1 = some entry.2 := by
      rw [get?_eq_lookup]
      exact (lookup_eq_some_iff_mem distinct).2 found
    simp [value]
  rw [List.filterMap_congr each, List.filterMap_some]

/-- Tables with the same names in the same order and with the same values are equal. -/
theorem eq_of_get?_eq {one two : Table α} (distinct : one.names.Nodup)
    (names : one.names = two.names) (values : ∀ name, one.get? name = two.get? name) :
    one = two := by
  have entries : one.entries = two.entries := by
    rw [← filterMap_names distinct, ← filterMap_names (names ▸ distinct), names]
    simp only [values]
  cases one
  cases two
  exact congrArg Table.mk entries

/-! ## Updates -/

variable {table other : Table α}

/-- A table that is updated keeps its names in their places, and new names come last. -/
theorem names_update (distinct : other.names.Nodup) :
    (table.update other).names = table.names ++ other.names.filter (· ∉ table.names) := by
  rw [update, names_foldl fun table entry => names_set table entry.1 entry.2]
  exact congrArg _ (eraseDups_eq_self (distinct.filter _))

/-- In a table that is updated the values of the other table come first. -/
theorem get?_update (distinct : other.names.Nodup) (name : Text) :
    (table.update other).get? name = (other.get? name).or (table.get? name) := by
  rw [update, get?_foldl_set, lookup_reverse distinct, get?_eq_lookup other]

/-- Setting a name keeps different names different. -/
theorem nodup_names_set (distinct : table.names.Nodup) (name : Text) (value : α) :
    (table.set name value).names.Nodup := by
  rw [names_set]
  split
  · exact distinct
  · next new =>
    rw [← List.concat_eq_append]
    exact List.Nodup.concat new distinct

/-- The names of a table that is updated are different if those of both tables are. -/
theorem nodup_names_update (first : table.names.Nodup) (second : other.names.Nodup) :
    (table.update other).names.Nodup := by
  rw [names_update second]
  refine List.nodup_append.2 ⟨first, second.filter _, ?_⟩
  rintro name known _ new rfl
  exact absurd known (by simpa using (List.mem_filter.1 new).2)

/-- Updating with a table in which a name is set is updating with the table and setting the name. -/
theorem update_set (first : table.names.Nodup) (second : other.names.Nodup) (name : Text)
    (value : α) : table.update (other.set name value) = (table.update other).set name value := by
  have distinct := nodup_names_set second name value
  -- The name comes last on both sides if neither table has it, and keeps its place otherwise.
  have names : (table.update (other.set name value)).names =
      ((table.update other).set name value).names := by
    rw [names_update distinct, names_set, names_set, names_update second]
    by_cases known : name ∈ other.names
    · by_cases own : name ∈ table.names <;> simp [known, own]
    · by_cases own : name ∈ table.names <;> simp [known, own]
  have values (asked : Text) : (table.update (other.set name value)).get? asked =
      ((table.update other).set name value).get? asked := by
    rw [get?_update distinct, get?_set, get?_set, get?_update second]
    by_cases same : asked = name
    · rw [if_pos same, if_pos same, Option.some_or]
    · rw [if_neg same, if_neg same]
  exact eq_of_get?_eq (nodup_names_update first distinct) names values

/-- Updating with a table of entries is setting the entries one by one. -/
theorem update_ofList (first : table.names.Nodup) (entries : List (Text × α)) :
    table.update (ofList entries) =
      entries.foldl (fun table entry => table.set entry.1 entry.2) table := by
  induction entries using List.reverseRecOn with
  | nil => rfl
  | append_singleton entries entry ih =>
    have last : ofList (entries ++ [entry]) = (ofList entries).set entry.1 entry.2 := by
      rw [ofList, List.foldl_append]
      rfl
    rw [last, update_set first (nodup_names_ofList entries), ih, List.foldl_append]
    rfl

/-- The empty table is updated to the other one. -/
theorem empty_update_ofList (entries : List (Text × α)) :
    empty.update (ofList entries) = ofList entries := by
  have none : (empty : Table α).names.Nodup := List.nodup_nil
  exact update_ofList none entries

end Table

namespace Query

/-- A query is read as the table of its pairs. -/
theorem readPairs_eq_ofList (query : Text) :
    readPairs query = Table.ofList (pairs (Text.split '&' query)) := rfl

/-- Two queries with an ampersand between them are read like the first one, updated with the
second. -/
theorem readPairs_eq_update (one two : Text) :
    readPairs (one ++ '&' :: two) = (readPairs one).update (readPairs two) := by
  have both : pairs (Text.split '&' (one ++ '&' :: two)) =
      pairs (Text.split '&' one) ++ pairs (Text.split '&' two) := by
    rw [Text.split_append_split, pairs, List.filter_append, List.map_append]
    rfl
  have first : (readPairs one).names.Nodup := Table.nodup_names_ofList _
  rw [readPairs_eq_ofList, both, Table.ofList, List.foldl_append, readPairs_eq_ofList two,
    Table.update_ofList first]
  rfl

/-- The first one of joined queries is updated with the others. -/
theorem readPairs_join_cons (text : Text) (texts : List Text) :
    readPairs (Text.join ['&'] (text :: texts)) =
      (readPairs text).update (readPairs (Text.join ['&'] texts)) := by
  cases texts with
  | nil => rfl
  | cons second texts =>
    rw [Text.join, List.append_assoc]
    · exact readPairs_eq_update _ _
    · simp

/-- Empty pairs between joined queries are not read. -/
theorem readPairs_join_replicate (front back : List Text) (count : Nat) :
    readPairs (Text.join ['&'] (front ++ List.replicate count [] ++ back)) =
      readPairs (Text.join ['&'] (front ++ back)) := by
  induction front with
  | nil =>
    -- An empty pair is read as the empty table, and updating that one gives the other one.
    induction count with
    | zero => rfl
    | succ count ih =>
      rw [List.nil_append, List.nil_append] at ih ⊢
      rw [List.replicate_succ, List.cons_append, readPairs_join_cons, ih]
      exact Table.empty_update_ofList _
  | cons text front ih =>
    rw [List.cons_append, List.cons_append, List.cons_append, readPairs_join_cons, ih,
      readPairs_join_cons]

/-- Two queries with an ampersand between them are read like the first one, updated with the second:
the names of the first one keep their places, the other names of the second one come behind them in
their order, and a name has its value in the second one, or else its value in the first one. So any
number of empty pairs may stand anywhere in a query. -/
theorem readPairs_append (one two : Text) :
    readPairs (one ++ '&' :: two) = (readPairs one).update (readPairs two) ∧
      (readPairs (one ++ '&' :: two)).names = (readPairs one).names ++
        (readPairs two).names.filter (· ∉ (readPairs one).names) ∧
      (∀ name, (readPairs (one ++ '&' :: two)).get? name =
        ((readPairs two).get? name).or ((readPairs one).get? name)) ∧
      ∀ front back count, readPairs (Text.join ['&'] (front ++ List.replicate count [] ++ back)) =
        readPairs (Text.join ['&'] (front ++ back)) := by
  have distinct : (readPairs two).names.Nodup := Table.nodup_names_ofList _
  have whole := readPairs_eq_update one two
  refine ⟨whole, ?_, fun name => ?_, readPairs_join_replicate⟩
  · rw [whole, Table.names_update distinct]
  · rw [whole, Table.get?_update distinct]

-- A name keeps its place and takes its last value, and empty pairs are skipped.
example : readPairs "&b=1&a&&a==2&b=%41=3&".toList =
    ⟨[(['b'], ['A']), (['a'], [])]⟩ := by
  decide

end Query

end RoutePattern
