import RoutePattern.Proofs.Groups.Places
import RoutePattern.Proofs.Reading.Enclosed

/-!
# Tokens as rows of groups

Where the parentheses of every placeholder are those of a group, a row of tokens is read as a row
of parts with one group for each placeholder (`exists_extends`), and if no other group remembers
what it matches, the groups stand in the row one after the other and none holds another one
(`Row`).
-/
namespace RoutePattern

open Regex
open Regex.Reader (Reads)
open Regex.Scan (Captures Leaves facing)

/-- A row of parts whose groups are numbered from one after `first` up to `last`. Each group stands
by itself or, after plain parts, in an optional repetition, and holds no other group. -/
inductive Row : (first : Nat) → List Expr → (last : Nat) → Prop
  | nil (count : Nat) : Row count [] count
  | plain {first last : Nat} {part : Expr} {parts : List Expr} (plain : Plain [part])
    (row : Row first parts last) : Row first (part :: parts) last
  | group {first last : Nat} {body : Expr} {parts : List Expr} (free : body.groupCount = 0)
    (row : Row (first + 1) parts last) : Row first (.group (first + 1) body :: parts) last
  | optional {first last : Nat} {leads : List Expr} {body : Expr} {parts : List Expr}
    (plain : Plain leads) (free : body.groupCount = 0) (row : Row (first + 1) parts last) :
    Row first (.loop 0 (some 1) .greedy (.sequence (leads ++ [.group (first + 1) body])) :: parts)
      last

namespace Row

/-- Plain parts in front of a row. -/
theorem plains {leads parts : List Expr} {first last : Nat} (plain : Plain leads)
    (row : Row first parts last) : Row first (leads ++ parts) last := by
  induction leads with
  | nil => exact row
  | cons lead leads ih =>
    obtain ⟨first, others⟩ := List.forall_mem_cons.1 plain
    exact .plain (List.forall_mem_singleton.2 first) (ih others)

/-- Plain parts are a row. -/
theorem ofPlain {parts : List Expr} (plain : Plain parts) (count : Nat) :
    Row count parts count := by
  have row := plains plain (.nil count)
  rw [List.append_nil] at row
  exact row

/-- One row after the other is a row. -/
theorem append {one two : List Expr} {first middle last : Nat} (row : Row first one middle)
    (later : Row middle two last) : Row first (one ++ two) last := by
  induction row with
  | nil count => exact later
  | plain plain _ ih => exact .plain plain (ih later)
  | group free _ ih => exact .group free (ih later)
  | optional plain free _ ih => exact .optional plain free (ih later)

end Row

/-- A placeholder gives its group no name of its own. -/
def Placeholder.IsBare (placeholder : Placeholder) : Prop :=
  placeholder.captureSource.head? ≠ some '?'

instance (placeholder : Placeholder) : Decidable placeholder.IsBare :=
  inferInstanceAs (Decidable (placeholder.captureSource.head? ≠ some '?'))

/-- What the tokens with some placeholders make of a reader: parts of the branch that is being
read, and at least one group for each placeholder. -/
structure Extends (found : List Placeholder) (parts : List Expr) (reader next : Reader) : Prop where
  frame : next.frame = (reader.append parts).frame
  outer : next.outer = reader.outer
  widths : reader.widths.length + found.length ≤ next.widths.length
  names : reader.names <+: next.names
  marked : ∀ placeholder ∈ found, ¬placeholder.IsBare → next.names ≠ []
  /-- Unless there are other groups that remember what they match. -/
  quiet : next.widths.length = reader.widths.length + found.length →
    Row reader.widths.length parts next.widths.length ∧
      ((∀ placeholder ∈ found, placeholder.IsBare) → next.names = reader.names)

namespace Extends

variable {reader middle next : Reader}

/-- Plain parts. -/
theorem ofPlain {parts : List Expr} (plain : Plain parts) (reader : Reader) :
    Extends [] parts reader (reader.append parts) where
  frame := rfl
  outer := rfl
  widths := Nat.le_refl _
  names := List.prefix_rfl
  marked := by simp
  quiet := fun _ => ⟨.ofPlain plain _, fun _ => rfl⟩

/-- The innermost group begins where it did, and no other one is open. -/
theorem older {found : List Placeholder} {parts : List Expr} (growth : Extends found parts reader next)
    {position place : Nat} (older : ∀ frame ∈ reader.frame :: reader.outer, frame.start < position)
    (later : position ≤ place) : ∀ frame ∈ next.frame :: next.outer, frame.start < place := by
  obtain ⟨innermost, others⟩ := List.forall_mem_cons.1 older
  rw [growth.frame, growth.outer]
  refine List.forall_mem_cons.2 ⟨Nat.lt_of_lt_of_le innermost later, fun frame member => ?_⟩
  exact Nat.lt_of_lt_of_le (others frame member) later

/-- Some tokens and then others. -/
theorem trans {found others : List Placeholder} {one two : List Expr}
    (first : Extends found one reader middle) (second : Extends others two middle next) :
    Extends (found ++ others) (one ++ two) reader next where
  frame := by
    have later : (middle.append two).frame = ((reader.append one).append two).frame := by
      simp only [Reader.append, first.frame]
    rw [second.frame, later, Reader.append_append]
  outer := second.outer.trans first.outer
  widths := by
    have one := first.widths
    have two := second.widths
    rw [List.length_append]
    omega
  names := first.names.trans second.names
  marked := by
    intro placeholder member marked none
    rcases List.mem_append.1 member with here | there
    · have grown := second.names
      rw [none] at grown
      exact first.marked placeholder here marked (List.prefix_nil.1 grown)
    · exact second.marked placeholder there marked none
  -- Equal counts over both parts force equal counts over each of them.
  quiet := by
    intro same
    have less := first.widths
    have more := second.widths
    rw [List.length_append] at same
    obtain ⟨row, names⟩ := first.quiet (by omega)
    obtain ⟨later, laterNames⟩ := second.quiet (by omega)
    refine ⟨row.append later, fun bare => ?_⟩
    rw [laterNames fun placeholder there => bare placeholder (List.mem_append_right _ there)]
    exact names fun placeholder here => bare placeholder (List.mem_append_left _ here)

/-- The tokens of one placeholder, whatever surrounds its group. -/
theorem ofLeaves {found : Placeholder} {body : Expr} {base last : Reader} {parts : List Expr}
    (leaves : Leaves base found.captureSource body next) (widths : base.widths = reader.widths)
    (names : base.names = reader.names) (frame : last.frame = (reader.append parts).frame)
    (outer : last.outer = reader.outer) (sameWidths : last.widths = next.widths)
    (sameNames : last.names = next.names)
    (row : body.groupCount = 0 → Row reader.widths.length parts (reader.widths.length + 1)) :
    Extends [found] parts reader last where
  frame := frame
  outer := outer
  widths := by
    rw [sameWidths, ← widths]
    exact leaves.widths
  names := by
    rw [sameNames, ← names]
    exact leaves.names
  marked := by
    intro placeholder member marked
    obtain rfl := List.mem_singleton.1 member
    rw [sameNames]
    exact leaves.marked (not_not.1 marked)
  quiet := by
    intro same
    rw [sameWidths, ← widths] at same
    obtain ⟨free, kept⟩ := leaves.quiet same
    refine ⟨?_, fun bare => ?_⟩
    · rw [sameWidths, same, widths]
      exact row free
    · rw [sameNames, ← names]
      exact kept (bare found (List.mem_singleton_self _))

end Extends

end RoutePattern
