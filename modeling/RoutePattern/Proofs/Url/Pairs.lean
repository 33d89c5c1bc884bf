import Mathlib.Algebra.Order.BigOperators.Group.List
import Mathlib.Algebra.Order.Group.Nat
import Mathlib.Data.List.Nodup
import RoutePattern.Datum.Query
import RoutePattern.Proofs.Component

/-!
# Queries and their pairs

A dictionary of texts that is written as a query is read again pair by pair: in the same order, with
the values as they were, and with the names as the query shows them (`readQuery_writeQuery`). Names
are encoded when they are written and are not decoded when they are read, so the dictionary comes
back exactly if encoding leaves all its names as they are (`readQuery_writeQuery_eq_iff`).
-/
namespace RoutePattern

/-! ## Tables -/

namespace Table

variable {α : Type}

/-- The entries of a table are the given ones if all names are different. -/
theorem entries_ofList {entries : List (Text × α)} (distinct : (entries.map (·.1)).Nodup) :
    (Table.ofList entries).entries = entries := by
  have setNew (name : Text) (value : α) (known : List (Text × α)) (fresh : name ∉ known.map (·.1)) :
      Table.setIn name value known = known ++ [(name, value)] := by
    induction known with
    | nil => rfl
    | cons entry known ih =>
      rw [List.map_cons, List.mem_cons, not_or] at fresh
      rw [Table.setIn, if_neg (Ne.symm fresh.1), ih fresh.2]
      rfl
  -- The names of the table that grows on the way are part of the induction.
  have added (known : Table α) (fresh : ((known.entries ++ entries).map (·.1)).Nodup) :
      (entries.foldl (fun table entry => table.set entry.1 entry.2) known).entries =
        known.entries ++ entries := by
    clear distinct
    induction entries generalizing known with
    | nil => simp
    | cons entry entries ih =>
      have apart := List.nodup_append.1 (by simpa using fresh :
        (known.entries.map (·.1) ++ entry.1 :: entries.map (·.1)).Nodup)
      have new : entry.1 ∉ known.entries.map (·.1) := fun found =>
        apart.2.2 entry.1 found entry.1 (List.mem_cons_self ..) rfl
      have same : (known.set entry.1 entry.2).entries = known.entries ++ [entry] :=
        setNew entry.1 entry.2 known.entries new
      rw [List.foldl_cons, ih, same, List.append_assoc, List.singleton_append]
      rw [same, List.append_assoc, List.singleton_append]
      exact fresh
  exact added Table.empty distinct

/-- A name has a value exactly if it is one of the names of the table. -/
theorem isSome_get?_iff {table : Table α} {name : Text} :
    (table.get? name).isSome = true ↔ name ∈ table.names := by
  rw [get?, Option.isSome_map, List.find?_isSome, names, List.mem_map]
  simp only [decide_eq_true_eq]

/-- Tables that give every name the same value, each with different names, have the same names, in
some order. -/
theorem names_perm_of_get?_eq {one two : Table α} (first : one.names.Nodup) (second : two.names.Nodup)
    (same : ∀ name, one.get? name = two.get? name) : one.names.Perm two.names := by
  refine (List.perm_ext_iff_of_nodup first second).2 fun name => ?_
  rw [← isSome_get?_iff, ← isSome_get?_iff, same name]

end Table

/-! ## Names that encoding leaves as they are -/

namespace Percent

open Text

/-- A character is encoded as at least one character, and a reserved one as more. -/
theorem length_encodeChar (c : Char) :
    1 ≤ (encodeChar c).length ∧ (isUnreserved c = false → 1 < (encodeChar c).length) := by
  unfold encodeChar
  split
  · next unreserved =>
    exact ⟨Nat.le_refl _, fun reserved => absurd (unreserved.symm.trans reserved) (by decide)⟩
  · have octets : Utf8.encode c.toNat ≠ [] := by
      unfold Utf8.encode
      split
      · exact List.cons_ne_nil _ _
      · split
        · exact List.cons_ne_nil _ _
        · split
          · exact List.cons_ne_nil _ _
          · exact List.cons_ne_nil _ _
    obtain ⟨octet, octets, same⟩ := List.exists_cons_of_ne_nil octets
    rw [same, List.flatMap_cons, List.length_append, escape]
    simp only [List.length_cons, List.length_nil]
    omega

/-- A component is at least as long as its text. -/
theorem length_le_encode (text : Text) : text.length ≤ (encode text).length := by
  induction text with
  | nil => exact Nat.le_refl _
  | cons c text ih =>
    have first := (length_encodeChar c).1
    rw [encode, List.flatMap_cons, List.length_append, List.length_cons]
    exact Nat.add_comm 1 text.length ▸ Nat.add_le_add first ih

/-- A component is longer than its text if a character is reserved. -/
theorem length_lt_encode {text : Text} {c : Char} (found : c ∈ text)
    (reserved : isUnreserved c = false) : text.length < (encode text).length := by
  induction text with
  | nil => exact absurd found List.not_mem_nil
  | cons d text ih =>
    rw [encode, List.flatMap_cons, List.length_append, List.length_cons, Nat.add_comm]
    rcases List.mem_cons.1 found with rfl | later
    · exact Nat.add_lt_add_of_lt_of_le ((length_encodeChar c).2 reserved) (length_le_encode text)
    · exact Nat.add_lt_add_of_le_of_lt (length_encodeChar d).1 (ih later)

/-- Encoding puts names in another order only if it leaves them all as they are. -/
theorem unreserved_of_encode_perm {names : List Text} (same : (names.map encode).Perm names) :
    ∀ name ∈ names, ∀ c ∈ name, isUnreserved c = true := by
  by_contra some
  push Not at some
  obtain ⟨name, known, c, inside, reserved⟩ := some
  have longer : (names.map List.length).sum < (names.map (List.length ∘ encode)).sum :=
    List.sum_lt_sum _ _ (fun name _ => length_le_encode name)
      ⟨name, known, length_lt_encode inside (Bool.eq_false_iff.2 reserved)⟩
  have equal := (same.map List.length).sum_eq
  rw [List.map_map] at equal
  exact Nat.ne_of_gt longer equal

end Percent

/-! ## Pairs -/

namespace Query

open Percent

/-- Pairs that are written apart are read again one by one. -/
theorem entries_readPairs_join {pairs : List (Text × Text)} {write : Text × Text → Text}
    {image : Text × Text → Text × Text} (given : ∀ pair, write pair ≠ [])
    (free : ∀ pair, '&' ∉ write pair) (read : ∀ pair ∈ pairs, readPair (write pair) = image pair)
    (distinct : (pairs.map fun pair => (image pair).1).Nodup) :
    (readPairs (Text.join ['&'] (pairs.map write))).entries = pairs.map image := by
  have full : ∀ text ∈ pairs.map write, (!text.isEmpty) = true := by
    intro text found
    obtain ⟨pair, -, rfl⟩ := List.mem_map.1 found
    simpa using given pair
  have entries : ((pairs.map write).filter fun pair => !pair.isEmpty).map readPair =
      pairs.map image := by
    rw [List.filter_eq_self.2 full, List.map_map]
    exact List.map_congr_left read
  cases pairs with
  | nil => rfl
  | cons pair pairs =>
    have apart : ∀ text ∈ (pair :: pairs).map write, '&' ∉ text := by
      intro text found
      obtain ⟨other, -, rfl⟩ := List.mem_map.1 found
      exact free other
    rw [readPairs, Text.split_join (by simp) apart, entries]
    apply Table.entries_ofList
    rw [List.map_map]
    exact distinct

/-- A pair that is written is read with its name as it is written. -/
theorem readPair_writePair (pair : Text × Text) :
    readPair (writePair pair) = (encode pair.1, pair.2) := by
  have sign (text : Text) : '=' ∉ encode text := not_mem_encode (by decide) (by decide) text
  have cut : Text.split '=' (writePair pair) = [encode pair.1, encode pair.2] := by
    rw [writePair, Text.split_append_cons (sign _), Text.split_eq_singleton (sign _)]
  rw [readPair, cut]
  exact congrArg (encode pair.1, ·) (decode_encode pair.2)

/-- Encoding keeps different names different. -/
theorem nodup_encode {pairs : List (Text × Text)} (distinct : (pairs.map (·.1)).Nodup) :
    (pairs.map fun pair => encode pair.1).Nodup := by
  have injective : Function.Injective encode := Function.LeftInverse.injective decode_encode
  have encoded := (List.nodup_map_iff injective).2 distinct
  rw [List.map_map] at encoded
  exact encoded

/-- The pairs of a query are read in the order in which they are written, none of them lost, merged
or split. -/
theorem entries_readPairs_write {pairs : List (Text × Text)} (distinct : (pairs.map (·.1)).Nodup) :
    (readPairs (Text.join ['&'] (pairs.map writePair))).entries =
      pairs.map fun pair => (encode pair.1, pair.2) := by
  have given (pair : Text × Text) : writePair pair ≠ [] := by simp [writePair]
  have free (pair : Text × Text) : '&' ∉ writePair pair := by
    have outside (text : Text) : '&' ∉ encode text := not_mem_encode (by decide) (by decide) text
    simp [writePair, outside]
  exact entries_readPairs_join given free (fun pair _ => readPair_writePair pair)
    (nodup_encode distinct)

end Query

/-! ## Dictionaries of texts -/

/-- The texts of a dictionary of texts are these texts. -/
theorem entryTexts_texts (pairs : List (Text × Text)) :
    Datum.entryTexts (pairs.map fun pair => (.text pair.1, .text pair.2)) = .ok pairs := by
  induction pairs with
  | nil => rfl
  | cons pair pairs ih =>
    rw [List.map_cons, Datum.entryTexts, ih]
    rfl

namespace Datum

/-- A dictionary of texts is written as the query of its pairs. -/
theorem writeQuery_texts (pairs : List (Text × Text)) :
    (dict (pairs.map fun pair => (text pair.1, text pair.2))).writeQuery =
      .ok (Query.write pairs) := by
  rw [writeQuery, entryTexts_texts]
  rfl

/-- The pairs of a query that was written are read behind its question mark. -/
theorem readQuery_write (pairs : List (Text × Text)) : (text (Query.write pairs)).readQuery =
    .ok (Query.readPairs (Text.join ['&'] (pairs.map Query.writePair))) := by
  cases pairs with
  | nil => rfl
  | cons pair pairs => rfl

variable {pairs : List (Text × Text)}

/-- A dictionary of texts that is written as a query is read with its pairs in their order, each
with its value and with its name encoded. -/
theorem readQuery_writeQuery (distinct : (pairs.map (·.1)).Nodup) :
    ∃ written table, (dict (pairs.map fun pair => (text pair.1, text pair.2))).writeQuery =
        .ok written ∧
      (text written).readQuery = .ok table ∧
      table.entries = pairs.map fun pair => (Percent.encode pair.1, pair.2) :=
  ⟨_, _, writeQuery_texts pairs, readQuery_write pairs, Query.entries_readPairs_write distinct⟩

/-- A dictionary with an empty name, an empty value, and two names that differ by an escape. -/
def escapedPairs : List (Text × Text) :=
  [([], []), ("a b".toList, "&=".toList), ("a%20b".toList, [])]

/-- Names that differ by an escape stay different, and nothing is skipped for being empty. -/
theorem readQuery_writeQuery_escaped : (escapedPairs.map (·.1)).Nodup ∧
    ∃ written table, (dict (escapedPairs.map fun pair => (text pair.1, text pair.2))).writeQuery =
        .ok written ∧
      (text written).readQuery = .ok table ∧
      table.entries = [([], []), ("a%20b".toList, "&=".toList), ("a%2520b".toList, [])] := by
  have distinct : (escapedPairs.map (·.1)).Nodup := by decide
  obtain ⟨written, table, write, read, entries⟩ := readQuery_writeQuery distinct
  exact ⟨distinct, written, table, write, read, entries.trans (by decide)⟩

/-- A dictionary of texts that is written as a query is read with the same value for every name
exactly if all characters of its names are unreserved. -/
theorem readQuery_writeQuery_eq_iff (distinct : (pairs.map (·.1)).Nodup) :
    ∃ written table, (dict (pairs.map fun pair => (text pair.1, text pair.2))).writeQuery =
        .ok written ∧
      (text written).readQuery = .ok table ∧
      ((∀ name, table.get? name = (Table.mk pairs).get? name) ↔
        ∀ pair ∈ pairs, ∀ c ∈ pair.1, Percent.isUnreserved c = true) := by
  have entries := Query.entries_readPairs_write distinct
  refine ⟨_, _, writeQuery_texts pairs, readQuery_write pairs, ?_⟩
  generalize Query.readPairs (Text.join ['&'] (pairs.map Query.writePair)) = table at entries
  have names : table.names = (pairs.map (·.1)).map Percent.encode := by
    rw [Table.names, entries, List.map_map, List.map_map]
    rfl
  constructor
  · intro same pair known
    have encoded : table.names.Nodup := by
      rw [names, List.map_map]
      exact Query.nodup_encode distinct
    have order : table.names.Perm (Table.mk pairs).names :=
      Table.names_perm_of_get?_eq encoded distinct same
    rw [names] at order
    exact Percent.unreserved_of_encode_perm order pair.1 (List.mem_map_of_mem known)
  · intro unreserved name
    have whole : table.entries = pairs := by
      rw [entries]
      refine (List.map_congr_left fun pair known => ?_).trans (List.map_id pairs)
      rw [Percent.encode_unreserved (unreserved pair known)]
      rfl
    rw [Table.get?, Table.get?, whole]

/-- A dictionary whose names are made of unreserved characters. -/
def plainPairs : List (Text × Text) :=
  [("q".toList, "a=b&c".toList), ("to-do".toList, "50%".toList), ([], "?".toList)]

/-- Under unreserved names every value comes back, whatever delimiters it holds. -/
theorem readQuery_writeQuery_eq_iff_plain : (plainPairs.map (·.1)).Nodup ∧
    ∃ written table, (dict (plainPairs.map fun pair => (text pair.1, text pair.2))).writeQuery =
        .ok written ∧
      (text written).readQuery = .ok table ∧
      ∀ name, table.get? name = (Table.mk plainPairs).get? name := by
  have distinct : (plainPairs.map (·.1)).Nodup := by decide
  have unreserved : ∀ pair ∈ plainPairs, ∀ c ∈ pair.1, Percent.isUnreserved c = true := by
    simp only [plainPairs, List.forall_mem_cons]
    exact ⟨Text.forall_mem_iff_all.2 (by decide), Text.forall_mem_iff_all.2 (by decide),
      Text.forall_mem_iff_all.2 (by decide), by simp⟩
  obtain ⟨written, table, write, read, same⟩ := readQuery_writeQuery_eq_iff distinct
  exact ⟨distinct, written, table, write, read, same.2 unreserved⟩

/-- A name with a blank is not there any more when it is read: its escape is a name of its own. -/
theorem get?_readQuery_writeQuery_blank :
    (dict [(text "a b".toList, text "1".toList)]).writeQuery = .ok "?a%20b=1".toList ∧
      ∃ table, (text "?a%20b=1".toList).readQuery = .ok table ∧
        table.get? "a b".toList ≠ (Table.mk [("a b".toList, "1".toList)]).get? "a b".toList := by
  have read : (text "?a%20b=1".toList).readQuery =
      .ok ⟨[("a%20b".toList, "1".toList)]⟩ := rfl
  exact ⟨rfl, _, read, by decide⟩

end Datum

end RoutePattern
