import RoutePattern.Proofs.Groups.Compiled
import RoutePattern.Proofs.Groups.Spans

/-!
# Keys and groups

The keys of a compiled pattern are those of its placeholders, and there is one group for each key.
That the groups are those of the placeholders is more than the counts can tell: it holds exactly
where the parentheses of every placeholder are those of a group, and then the spans of the groups
stand in the order of the placeholders.
-/
namespace RoutePattern

open Regex

/-- A pattern of two parameters that stand for a segment each. -/
def pairPattern : Text := "/:a/:b".toList

/-- The tokens of the pattern of two parameters. -/
def pairTokens : List PatternToken :=
  ['a', 'b'].map fun name => .placeholder
    (keyedPlaceholder (some '/') [name] (standardRegex (some '/')) standardConverter false false)

/-- Options under which a pattern is taken as it stands. -/
def exactOptions : Options := ⟨true, true, true, Table.empty⟩

/-- The parentheses of two parameters are those of the two groups. -/
theorem grouped_pair : Grouped exactOptions pairTokens := by
  intro places member
  have known : groupPlaces 1 pairTokens = [(2, 9), (11, 18)] := by decide
  rw [known] at member
  rcases List.mem_cons.1 member with rfl | member
  · exact ⟨1, _, Scan.reaches_of_after (show Scan.after 9 _ = _ from rfl), rfl, rfl, rfl, rfl, rfl⟩
  · obtain rfl := List.mem_singleton.1 member
    exact ⟨2, _, Scan.reaches_of_after (show Scan.after 18 _ = _ from rfl), rfl, rfl, rfl, rfl, rfl⟩

/-- A group that is given a name passes for that of the parameter it stands in. -/
example : (compilePattern exactOptions "/:a(?P<n>x)".toList).toOption.map (·.program.names) =
    some [(['n'], 1)] := rfl

end RoutePattern
