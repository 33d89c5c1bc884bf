import RoutePattern.Proofs.Delimiter
import RoutePattern.Route

/-!
# Query and fragment of a matched path

The query of a path reaches from its first question mark to the next number sign, and the fragment
from its first number sign to the end. Taking parameters out of a path ends both of them earlier:
the query at a second question mark and the fragment at a second number sign. So the whole text is
read exactly when neither delimiter comes again.
-/
namespace RoutePattern.Route

open Percent Text

/-- The text of a URL after its first question mark, up to the next number sign. -/
def queryText (url : Text) : Text := (url.after '?').before '#'

/-- The text of a URL after its first number sign. -/
def fragmentText (url : Text) : Text := url.after '#'

/-- The query that is read ends at the next question mark. -/
theorem queryPart_eq_before (url : Text) : queryPart url = (queryText url).before '?' := by
  rw [queryPart, split_eq_cons]
  by_cases marked : '?' ∈ url
  · rw [if_pos marked, split_eq_cons '?' (url.after '?')]
    calc (split '#' ((url.after '?').before '?')).headD []
      _ = ((url.after '?').before '?').before '#' := headD_split ..
      _ = (queryText url).before '?' := before_before_comm ..
  · rw [if_neg marked, queryText, after_eq_nil marked]
    rfl

/-- The fragment that is read ends at the next number sign. -/
theorem fragmentPart_eq_before (url : Text) : fragmentPart url = (fragmentText url).before '#' := by
  rw [fragmentPart, split_eq_cons]
  by_cases marked : '#' ∈ url
  · rw [if_pos marked, split_eq_cons '#' (url.after '#')]
    rfl
  · rw [if_neg marked, fragmentText, after_eq_nil marked]
    rfl

/-- Captures that are not converted are always collected. -/
theorem collect_plain_ok (route : Route) (captures : List (Option ParamKey × Option Text))
    (named : Table Datum) (positional : List (Option Text)) :
    ∃ collected, collect route false captures named positional = .ok collected := by
  induction captures generalizing named positional with
  | nil => exact ⟨_, rfl⟩
  | cons capture captures ih =>
    obtain ⟨key, value⟩ := capture
    cases key with
    | none => exact ih _ _
    | some key =>
      cases value with
      | none => exact ih _ _
      | some value =>
        simp only [collect, Bool.false_eq_true, if_false]
        split
        · exact ih _ _
        · exact ih _ _

/-- The parameters of a match, once its captures are collected. -/
theorem paramsOf_collected (route : Route) (convert : Bool) (path : Text) (found : Regex.Match)
    {collected : Table Datum × List (Option Text)}
    (collecting : collect route convert
      (route.compiled.keys.zip (found.captures.map (·.map decode))) Table.empty [] =
        .ok collected) :
    route.paramsOf convert path found =
      .ok ⟨(Query.readPairs (queryPart (decodeUri path))).entries.foldl
          (fun table entry => table.setNew entry.1 (Datum.text entry.2)) collected.1,
        collected.2, fragmentPart (decodeUri path),
        Query.readPairs (queryPart (decodeUri path))⟩ := by
  simp only [paramsOf, collecting]
  rfl

/-- A matched path has parameters, with the query and the fragment that are read from it. -/
theorem params_plain_ok (route : Route) {path : Text} (given : path ≠ [])
    (matched : route.test path = true) :
    ∃ params, route.params path false = .ok params ∧
      params.query = Query.readPairs (queryPart (decodeUri path)) ∧
      params.fragment = fragmentPart (decodeUri path) := by
  obtain ⟨found, search⟩ := Option.isSome_iff_exists.1 matched
  have nonempty : path.isEmpty = false := by simpa using given
  obtain ⟨collected, collecting⟩ := collect_plain_ok route
    (route.compiled.keys.zip (found.captures.map (·.map decode))) Table.empty []
  have taken := paramsOf_collected route false path found collecting
  exact ⟨_, by simp only [params, nonempty, search, taken]; rfl, rfl, rfl⟩

/-- The parameters of a matched path hold the query up to a second question mark and the fragment
up to a second number sign. The text of the query is read as a whole exactly where no second
question mark comes, and the fragment is the whole one exactly where no second number sign comes. -/
theorem params_query_fragment_exact (route : Route) {path : Text} (given : path ≠ [])
    (matched : route.test path = true) :
    ∃ params, route.params path false = .ok params ∧
      params.query = Query.readPairs (queryPart (decodeUri path)) ∧
      queryPart (decodeUri path) = (queryText (decodeUri path)).before '?' ∧
      (queryPart (decodeUri path) = queryText (decodeUri path) ↔
        '?' ∉ queryText (decodeUri path)) ∧
      params.fragment = (fragmentText (decodeUri path)).before '#' ∧
      (params.fragment = fragmentText (decodeUri path) ↔ '#' ∉ fragmentText (decodeUri path)) := by
  obtain ⟨params, taken, query, fragment⟩ := params_plain_ok route given matched
  have cut := queryPart_eq_before (decodeUri path)
  rw [fragmentPart_eq_before] at fragment
  refine ⟨params, taken, query, cut, ?_, fragment, ?_⟩
  · rw [cut]
    exact before_eq_self_iff
  · rw [fragment]
    exact before_eq_self_iff

/-- The settings of a caller who compares case and slashes strictly. -/
def strictSettings : Settings := ⟨.bool true, .bool true, .bool true, none⟩

/-- A query and a fragment that hold their own delimiters lose what comes after them. -/
theorem params_query_fragment_exact_twice :
    ∃ route, Route.make (.pattern "/a".toList) strictSettings [] = .ok route ∧
      ∃ params, route.params "/a?x=1?y#f#g".toList false = .ok params ∧
        params.query = Query.readPairs "x=1".toList ∧ params.fragment = "f".toList := by
  have given : "/a?x=1?y#f#g".toList ≠ [] := by decide
  have accepted : (Route.make (.pattern "/a".toList) strictSettings []).toOption.any
      (·.test "/a?x=1?y#f#g".toList) = true := by rfl
  cases made : Route.make (.pattern "/a".toList) strictSettings [] with
  | error error =>
    rw [made] at accepted
    exact absurd accepted Bool.false_ne_true
  | ok route =>
    rw [made] at accepted
    obtain ⟨params, taken, query, cut, -, fragment, -⟩ :=
      params_query_fragment_exact route given accepted
    refine ⟨route, rfl, params, taken, ?_, ?_⟩
    · rw [query, cut]
      rfl
    · rw [fragment]
      rfl

end RoutePattern.Route
