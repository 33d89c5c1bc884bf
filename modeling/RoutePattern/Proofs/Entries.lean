import RoutePattern.Proofs.Url.Pairs

/-!
# Tables made of entries

A table that is made of entries has their names, each where it first comes. Where later entries
count, a name has the value of its last entry (`Table.get?_ofList`); where they do not, it has that
of its first one (`Table.get?_merge`).
-/
namespace RoutePattern.Table

variable {α β : Type}

/-- Adding entries puts new names behind the known ones, each where it first comes. -/
theorem names_foldl {step : Table α → β → Table α} {key : β → Text}
    (adds : ∀ table entry, (step table entry).names =
      if key entry ∈ table.names then table.names else table.names ++ [key entry])
    (entries : List β) (table : Table α) :
    (entries.foldl step table).names =
      table.names ++ ((entries.map key).filter (· ∉ table.names)).eraseDups := by
  induction entries generalizing table with
  | nil => exact (List.append_nil _).symm
  | cons entry entries ih =>
    rw [List.foldl_cons, ih, adds, List.map_cons]
    by_cases known : key entry ∈ table.names
    · rw [if_pos known, List.filter_cons_of_neg (by simpa using known)]
    · have others : ((entries.map key).filter (· ∉ table.names ++ [key entry])) =
          ((entries.map key).filter (· ∉ table.names)).filter (!· == key entry) := by
        rw [List.filter_filter]
        refine List.filter_congr fun name _ => ?_
        have other : (!name == key entry) = decide ¬name = key entry :=
          Bool.eq_iff_iff.2 (by rw [Bool.not_eq_true', beq_eq_false_iff_ne, decide_eq_true_iff])
        rw [other, ← Bool.decide_and]
        exact decide_eq_decide.2 (by simp [not_or, and_comm])
      rw [if_neg known, List.filter_cons_of_pos (by simpa using known), List.eraseDups_cons, others,
        List.append_assoc, List.singleton_append]

/-- A name is looked for in the first entry before it is in the others. -/
theorem lookup_cons_entry (entry : Text × α) (entries : List (Text × α)) (name : Text) :
    (entry :: entries).lookup name = if name = entry.1 then some entry.2 else entries.lookup name := by
  rw [← entry.eta, List.lookup_cons]
  by_cases same : name = entry.1
  · rw [if_pos same, beq_iff_eq.2 same]
  · rw [if_neg same, beq_eq_false_iff_ne.2 same]

/-- The value of a name is that of its first entry. -/
theorem get?_eq_lookup (table : Table α) (name : Text) :
    table.get? name = table.entries.lookup name := by
  obtain ⟨entries⟩ := table
  rw [get?]
  induction entries with
  | nil => rfl
  | cons entry entries ih =>
    rw [lookup_cons_entry, ← ih, List.find?_cons]
    by_cases same : name = entry.1
    · simp [same]
    · simp [same, Ne.symm same]

/-! ## Names without repetition -/

/-- Names of which each is kept where it first comes are different. -/
theorem nodup_eraseDups (names : List Text) : names.eraseDups.Nodup := by
  induction size : names.length using Nat.strong_induction_on generalizing names with
  | _ count ih =>
    cases names with
    | nil => exact List.nodup_nil
    | cons name names =>
      have fewer : (names.filter (!· == name)).length < count := by
        rw [← size]
        exact Nat.lt_succ_of_le (List.length_filter_le ..)
      rw [List.eraseDups_cons, List.nodup_cons, List.mem_eraseDups]
      exact ⟨by simp, ih _ fewer _ rfl⟩

/-- Different names are all kept. -/
theorem eraseDups_eq_self {names : List Text} (distinct : names.Nodup) : names.eraseDups = names := by
  induction names with
  | nil => exact List.eraseDups_nil
  | cons name names ih =>
    obtain ⟨new, others⟩ := List.nodup_cons.1 distinct
    have kept : names.filter (!· == name) = names :=
      List.filter_eq_self.2 fun other found => by
        rw [Bool.not_eq_true', beq_eq_false_iff_ne]
        rintro rfl
        exact new found
    rw [List.eraseDups_cons, kept, ih others]

/-! ## Entries of which the last one of a name counts -/

/-- Entries that are set one after the other give a name the value of its last entry. -/
theorem get?_foldl_set (entries : List (Text × α)) (table : Table α) (name : Text) :
    (entries.foldl (fun table entry => table.set entry.1 entry.2) table).get? name =
      (entries.reverse.lookup name).or (table.get? name) := by
  induction entries generalizing table with
  | nil => rfl
  | cons entry entries ih =>
    rw [List.foldl_cons, ih, get?_set, List.reverse_cons, List.lookup_append, Option.or_assoc,
      lookup_cons_entry]
    congr 1
    split
    · rfl
    · rfl

/-- In a table of entries a name has the value of its last entry. -/
theorem get?_ofList (entries : List (Text × α)) (name : Text) :
    (ofList entries).get? name = entries.reverse.lookup name := by
  rw [ofList, get?_foldl_set]
  exact Option.or_none

/-- The names of a table of entries come in the order of their first entries. -/
theorem names_ofList (entries : List (Text × α)) :
    (ofList entries).names = (entries.map (·.1)).eraseDups := by
  have names := names_foldl (fun table entry => names_set table entry.1 entry.2) entries empty
  have all : (entries.map (·.1)).filter (· ∉ (empty : Table α).names) = entries.map (·.1) :=
    List.filter_eq_self.2 fun _ _ => rfl
  rw [all] at names
  exact names

/-- The names of a table of entries are different. -/
theorem nodup_names_ofList (entries : List (Text × α)) : (ofList entries).names.Nodup := by
  rw [names_ofList]
  exact nodup_eraseDups _

/-! ## Entries of which the first one of a name counts -/

/-- A name that is known stays as it is, and a new one comes last. -/
theorem names_setNew (table : Table α) (name : Text) (value : α) :
    (table.setNew name value).names =
      if name ∈ table.names then table.names else table.names ++ [name] := by
  have known : table.contains name = true ↔ name ∈ table.names := isSome_get?_iff
  by_cases found : name ∈ table.names
  · rw [setNew, if_pos (known.2 found), if_pos found]
  · rw [setNew, if_neg (mt known.1 found), names_set]

/-- A name that has a value keeps it. -/
theorem get?_setNew (table : Table α) (name other : Text) (value : α) :
    (table.setNew name value).get? other =
      (table.get? other).or (if other = name then some value else none) := by
  rw [setNew]
  split
  · next known =>
    split
    · next same =>
      obtain ⟨own, found⟩ := Option.isSome_iff_exists.1 known
      rw [same, found]
      rfl
    · exact Option.or_none.symm
  · next new =>
    have missing : table.get? name = none := by
      simpa [contains] using new
    rw [get?_set]
    split
    · next same =>
      rw [same, missing]
      rfl
    · exact Option.or_none.symm

/-- Entries that are added to a table give a name the value of its first entry, unless it has one in
the table. -/
theorem get?_merge (entries : List (Text × β)) (value : β → α) (table : Table α) (name : Text) :
    (entries.foldl (fun table entry => table.setNew entry.1 (value entry.2)) table).get? name =
      (table.get? name).or ((entries.lookup name).map value) := by
  induction entries generalizing table with
  | nil => exact Option.or_none.symm
  | cons entry entries ih =>
    rw [List.foldl_cons, ih, get?_setNew, Option.or_assoc, lookup_cons_entry]
    congr 1
    split
    · rfl
    · rfl

/-- Entries that are added to a table put their new names behind those of the table. -/
theorem names_merge (entries : List (Text × β)) (value : β → α) (table : Table α) :
    (entries.foldl (fun table entry => table.setNew entry.1 (value entry.2)) table).names =
      table.names ++ ((entries.map (·.1)).filter (· ∉ table.names)).eraseDups :=
  names_foldl (fun table entry => names_setNew table entry.1 (value entry.2)) entries table

end RoutePattern.Table
