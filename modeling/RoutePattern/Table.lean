import RoutePattern.Text.Basic

/-!
# Tables in order of insertion

A table maps texts to values and lists its entries in the order in which their names came in.
Giving a name a new value leaves the name in its place.
-/
namespace RoutePattern

/-- Entries in the order in which their names were first given. -/
structure Table (α : Type) where
  entries : List (Text × α)
  deriving Repr, DecidableEq, Inhabited

namespace Table

variable {α : Type}

/-- The table without entries. -/
def empty : Table α := ⟨[]⟩

/-- Entries with a name set to a value: in place where the name is there, at the end otherwise. -/
def setIn (name : Text) (value : α) : List (Text × α) → List (Text × α)
  | [] => [(name, value)]
  | entry :: entries =>
    if entry.1 = name then (name, value) :: entries else entry :: setIn name value entries

/-- The table with a name set to a value. -/
def set (table : Table α) (name : Text) (value : α) : Table α := ⟨setIn name value table.entries⟩

/-- The value of a name. -/
def get? (table : Table α) (name : Text) : Option α :=
  (table.entries.find? fun entry => entry.1 = name).map (·.2)

/-- The name has a value. -/
def contains (table : Table α) (name : Text) : Bool := (table.get? name).isSome

/-- The table with a name set to a value, unless it has one. -/
def setNew (table : Table α) (name : Text) (value : α) : Table α :=
  if table.contains name then table else table.set name value

/-- The table of a list of entries; a name that comes again keeps its place and takes the later
value. -/
def ofList (entries : List (Text × α)) : Table α :=
  entries.foldl (fun table entry => table.set entry.1 entry.2) empty

/-- The table updated with the entries of another one. -/
def update (table other : Table α) : Table α :=
  other.entries.foldl (fun table entry => table.set entry.1 entry.2) table

/-- The names in order. -/
def names (table : Table α) : List Text := table.entries.map (·.1)

/-- The values in order of their names. -/
def values (table : Table α) : List α := table.entries.map (·.2)

/-- The count of names. -/
def size (table : Table α) : Nat := table.entries.length

/-- No name has a value. -/
def isEmpty (table : Table α) : Bool := table.entries.isEmpty

/-- Setting a name gives it the value and leaves every other name as it was. -/
theorem get?_set (table : Table α) (name other : Text) (value : α) :
    (table.set name value).get? other = if other = name then some value else table.get? other := by
  obtain ⟨entries⟩ := table
  simp only [get?, set]
  induction entries with
  | nil =>
    by_cases same : other = name
    · simp [setIn, same]
    · simp [setIn, same, Ne.symm same]
  | cons entry entries ih =>
    simp only [setIn]
    by_cases here : entry.1 = name
    · by_cases same : other = name
      · simp [here, same]
      · have : ¬ name = other := fun eq => same eq.symm
        simp [here, same, this]
    · simp only [here, if_false]
      by_cases found : entry.1 = other
      · have : ¬ other = name := fun eq => here (found.trans eq)
        simp [found, this]
      · simpa [List.find?_cons, found] using ih

/-- Setting a name keeps the order of names: a new name comes last. -/
theorem names_set (table : Table α) (name : Text) (value : α) :
    (table.set name value).names =
      if name ∈ table.names then table.names else table.names ++ [name] := by
  obtain ⟨entries⟩ := table
  simp only [names, set]
  induction entries with
  | nil => simp [setIn]
  | cons entry entries ih =>
    simp only [setIn]
    by_cases here : entry.1 = name
    · simp [here]
    · have : ¬ name = entry.1 := fun eq => here eq.symm
      simp only [here, if_false, List.map_cons, List.mem_cons, this, false_or, ih]
      by_cases known : name ∈ entries.map (·.1) <;> simp [known]

end Table

end RoutePattern
