import RoutePattern.Proofs.Conversion
import RoutePattern.Proofs.Entries
import RoutePattern.Proofs.Matching.Upheld

/-!
# Captures and query as parameters

The parameters of a path are the captures of its match and the pairs of its query, in this order, of
which the first one of each name counts. So a name has what the first group of this name that took
part has captured, or else its value in the query, and the names come in this order
(`Route.params_merged`). The captures without a name stand apart, one for each group without one.
-/
namespace RoutePattern

open Regex

/-! ## As many captures as groups -/

/-- Going through a group keeps the count of groups. -/
theorem Regex.Matcher.Upholds.group_length {text : Text} {count : Nat} {body : Matcher}
    (upholds : body.Upholds text (·.length = count)) (index : Nat) :
    (Matcher.group index body).Upholds text (·.length = count) := by
  intro ends next follows state upheld
  have opened : (state.openGroup index).slots.length = count := by
    rw [State.openGroup, List.length_modify, upheld.slots]
  refine upholds ends _ (fun ended found => ?_) _ ⟨upheld.inside, opened⟩
  have closed : (ended.closeGroup index).slots.length = count := by
    rw [State.closeGroup, List.length_modify, found.slots]
  exact follows _ ⟨found.inside, closed⟩

/-- Of the groups of every expression nothing is asked for. -/
theorem Regex.Expr.eachGroup_true (expr : Expr) : expr.EachGroup fun _ _ => True := by
  induction expr with
  | empty | char _ | notChar _ | any | set _ _ | anchor _ | again _ => trivial
  | group _ body ih => exact ⟨trivial, ih⟩
  | seq first second one two | alt first second one two | ifGroup _ first second one two =>
    exact ⟨one, two⟩
  | flagged _ body ih | atomic body ih | ahead _ body ih | behind _ _ body ih
  | loop _ _ _ body ih => exact ih

/-- A match has one capture for each group. -/
theorem Regex.Program.length_captures {program : Program} {before after : Text} {found : Match}
    (matched : program.matchFrom before after = some found) :
    found.captures.length = program.groups := by
  obtain ⟨ended, first, rfl⟩ := Option.map_eq_some_iff.1 matched
  have upholds := @Expr.upholds_matcher (before.reverse ++ after) (·.length = program.groups) _
    (fun index _ _ _ body => body.group_length index) _ program.expr.eachGroup_true program.flags
    .undecided
  have start : Upheld (before.reverse ++ after) (·.length = program.groups)
      (program.stateAt before after) := ⟨⟨rfl, rfl⟩, List.length_replicate ..⟩
  have meets := upholds.first (Upheld.marks ..) start
  cases attempt : (program.expr.matcher program.flags .undecided).first
      (program.stateAt before after) with
  | failed place =>
    rw [attempt] at first
    exact absurd first (by simp [Attempt.ended?])
  | matched state =>
    rw [attempt] at first meets
    obtain rfl := Option.some.inj first
    rw [Match.captures, List.length_map, List.length_map]
    exact meets.slots

/-- A route has one key for each group, whatever it is made from. -/
theorem Route.length_keys {source : RouteSource} {settings : Settings} {name : Text} {route : Route}
    (made : Route.make source settings name = .ok route) :
    route.compiled.program.groups = route.compiled.keys.length := by
  cases source with
  | regex program =>
    obtain rfl := Except.ok.inj made
    simp [compileProgram]
  | pattern pattern =>
    obtain ⟨-, compiles⟩ := Route.of_make made
    obtain ⟨-, -, -, count, -⟩ := compilePattern_ok compiles
    exact count

/-! ## Collecting -/

/-- The names of the groups that took part, with what they have captured, in the order of the
groups. -/
def namedCaptures (captures : List (Option ParamKey × Option Text)) : List (Text × Text) :=
  captures.filterMap fun
    | (some key, some value) => some (key.name, value)
    | _ => none

/-- What the groups without a name have captured, in their order; none for a group that took no
part. -/
def unnamedCaptures (captures : List (Option ParamKey × Option Text)) : List (Option Text) :=
  (captures.filter (·.1.isNone)).map (·.2)

namespace Route

/-- Captures that are not converted are added in their order, the first one of each name. -/
theorem collect_plain (route : Route) (captures : List (Option ParamKey × Option Text))
    (named : Table Datum) (positional : List (Option Text)) :
    collect route false captures named positional =
      .ok ((namedCaptures captures).foldl
          (fun table entry => table.setNew entry.1 (Datum.text entry.2)) named,
        positional ++ unnamedCaptures captures) := by
  induction captures generalizing named positional with
  | nil => simp [collect, namedCaptures, unnamedCaptures]
  | cons capture captures ih =>
    obtain ⟨key, value⟩ := capture
    cases key with
    | none =>
      rw [collect, ih]
      simp [namedCaptures, unnamedCaptures]
    | some key =>
      cases value with
      | none =>
        rw [collect, ih]
        simp [namedCaptures, unnamedCaptures]
      | some value =>
        simp only [collect, Bool.false_eq_true, if_false, ih]
        have first : namedCaptures ((some key, some value) :: captures) =
            (key.name, value) :: namedCaptures captures := rfl
        rw [first, List.foldl_cons, Table.setNew]
        split
        · rfl
        · rfl

/-- The groups of a route with what they have captured in a match, decoded. -/
def keyedCaptures (route : Route) (found : Match) : List (Option ParamKey × Option Text) :=
  route.compiled.keys.zip (found.captures.map (·.map Percent.decode))

end Route

/-! ## Merging -/

/-- The captures of names and, behind them, the values of a query whose names have none. -/
def merged (captures : List (Text × Text)) (query : Table Text) : Table Datum :=
  query.entries.foldl (fun table entry => table.setNew entry.1 (Datum.text entry.2))
    (captures.foldl (fun table entry => table.setNew entry.1 (Datum.text entry.2)) Table.empty)

/-- A name has its first capture, or else its value in the query. -/
theorem get?_merged (captures : List (Text × Text)) (query : Table Text) (name : Text) :
    (merged captures query).get? name =
      ((captures.lookup name).or (query.get? name)).map Datum.text := by
  have first : (Table.empty : Table Datum).get? name = none := rfl
  rw [merged, Table.get?_merge, Table.get?_merge, first, Option.none_or, query.get?_eq_lookup,
    Option.map_or]

/-- The names of the captures come first, and then the other names of the query. -/
theorem names_merged (captures : List (Text × Text)) {query : Table Text}
    (distinct : query.names.Nodup) :
    (merged captures query).names = (captures.map (·.1)).eraseDups ++
      query.names.filter (· ∉ captures.map (·.1)) := by
  have all : (captures.map (·.1)).filter (· ∉ (Table.empty : Table Datum).names) =
      captures.map (·.1) := List.filter_eq_self.2 fun _ _ => rfl
  have captured := Table.names_merge captures Datum.text Table.empty
  rw [all, show (Table.empty : Table Datum).names = [] from rfl, List.nil_append] at captured
  have others : query.names.filter (· ∉ (captures.map (·.1)).eraseDups) =
      query.names.filter (· ∉ captures.map (·.1)) :=
    List.filter_congr fun name _ => by simp only [List.mem_eraseDups]
  rw [merged, Table.names_merge, captured, show query.entries.map (·.1) = query.names from rfl,
    others, Table.eraseDups_eq_self (distinct.filter _)]

/-- The names of a query that is read are different. -/
theorem nodup_readPairs (query : Text) : (Query.readPairs query).names.Nodup :=
  Table.nodup_names_ofList _

namespace Params

/-- A name is looked up among the named values. -/
theorem find_text (params : Params) (name : Text) :
    params.find (.text name) =
      (params.named.get? name).elim (.error (.missing (.text name))) .ok := by
  simp only [find, Datum.toInt?, Datum.keyFault?]
  cases params.named.get? name with
  | none => rfl
  | some value => rfl

end Params

/-- The parameters of a path that a route matches, whatever the route is made from. There is one
capture for each key. A name has what the first group of this name that took part has captured, or
its value in the query if there is no such group, and nothing else is found under a name. The names
are those of the groups that took part, each where it first comes, and then the others of the query.
The captures without a name are those of all groups without one. The query is that of the path, so
every other route that matches the path finds the same one. -/
theorem Route.params_merged {source : RouteSource} {settings : Settings} {name : Text}
    {route : Route} (made : Route.make source settings name = .ok route) {path : Text}
    (given : path ≠ []) {found : Match} (search : route.find path = some found) :
    route.compiled.keys.length = found.captures.length ∧
    ∃ params, route.params path false = .ok params ∧
      (∀ name, params.find (.text name) =
        (((namedCaptures (route.keyedCaptures found)).lookup name).or
          (params.query.get? name)).elim (.error (.missing (.text name))) (.ok ∘ Datum.text)) ∧
      params.named.names =
        ((namedCaptures (route.keyedCaptures found)).map (·.1)).eraseDups ++
          params.query.names.filter (· ∉ (namedCaptures (route.keyedCaptures found)).map (·.1)) ∧
      params.positional = unnamedCaptures (route.keyedCaptures found) ∧
      params.query = Query.readPairs (queryPart (Percent.decodeUri path)) ∧
      ∀ other : Route, other.test path = true →
        ∃ others, other.params path false = .ok others ∧ others.query = params.query := by
  obtain ⟨before, after, matched⟩ := Program.exists_matchFrom search
  have nonempty : path.isEmpty = false := by simpa using given
  have taken := paramsOf_collected route false path found
    (collect_plain route (route.keyedCaptures found) Table.empty [])
  refine ⟨(Route.length_keys made).symm.trans (Program.length_captures matched).symm, _,
    by simp only [params, nonempty, search, taken]; rfl, fun name => ?_, ?_, rfl, rfl,
    fun other test => ?_⟩
  · rw [Params.find_text]
    refine (congrArg (Option.elim · _ _) (get?_merged _ _ name)).trans ?_
    rw [Option.elim_map]
  · exact names_merged _ (nodup_readPairs _)
  · obtain ⟨others, found, query, -⟩ := params_plain_ok other given test
    exact ⟨others, found, query⟩

/-- A pattern with a name that comes twice, a group without a name, and a name that may be missing. -/
def sharedNamePattern : Text := "/:a/:a?/(z)?/:b?".toList

/-- A path whose query has the captured name, the missing one twice, and one of its own. -/
def sharedNamePath : Text := "/x/%79?c=1&a=2&b=3&b=4".toList

/-- The first capture of a name counts, and the query fills in the others. -/
theorem Route.params_merged_shared :
    ∃ route found, Route.make (.pattern sharedNamePattern) Settings.standard [] = .ok route ∧
      sharedNamePath ≠ [] ∧ route.find sharedNamePath = some found ∧
      ∃ params, route.params sharedNamePath false = .ok params ∧
        params.find (.text ['a']) = .ok (.text ['x']) ∧
        params.find (.text ['b']) = .ok (.text ['4']) ∧
        params.named.names = [['a'], ['c'], ['b']] ∧ params.positional = [none] := by
  obtain ⟨route, made⟩ : ∃ route,
      Route.make (.pattern sharedNamePattern) Settings.standard [] = .ok route := ⟨_, rfl⟩
  have evaluated : ((Route.make (.pattern sharedNamePattern) Settings.standard []).toOption.bind
      fun route => (route.find sharedNamePath).map fun found =>
        (namedCaptures (route.keyedCaptures found), unnamedCaptures (route.keyedCaptures found))) =
      some ([(['a'], ['x']), (['a'], ['y'])], [none]) := by decide +kernel
  rw [made] at evaluated
  obtain ⟨found, search, captures⟩ := Option.map_eq_some_iff.1 evaluated
  obtain ⟨named, unnamed⟩ := Prod.mk.inj captures
  obtain ⟨-, params, taken, values, names, positional, query, -⟩ :=
    Route.params_merged made (by decide : sharedNamePath ≠ []) search
  have pairs : Query.readPairs (queryPart (Percent.decodeUri sharedNamePath)) =
      ⟨[(['c'], ['1']), (['a'], ['2']), (['b'], ['4'])]⟩ := by decide +kernel
  rw [pairs] at query
  rw [named] at values names
  rw [unnamed] at positional
  refine ⟨route, found, made, by decide, search, params, taken, ?_, ?_, ?_, positional⟩
  · rw [values, query]
    rfl
  · rw [values, query]
    rfl
  · rw [names, query]
    rfl

end RoutePattern
