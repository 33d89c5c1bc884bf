import RoutePattern.Proofs.RoundTrip.Resolved

/-!
# The root of optional parameters

A route whose parameters may all be left out writes the root for no values. It finds the root
without taking anything of it: the one segment there is empty, so that no parameter can take it, and
it is left to the end of the route, which accepts it unless the options are strict about a path that
has to match as a whole (`params_root`).
-/
namespace RoutePattern

open Regex

namespace SegmentItem

/-- A parameter after a colon that may be left out. -/
def IsOptional : SegmentItem → Prop
  | literal _ => False
  | parameter kind name =>
    (kind = .colon .optional ∨ kind = .colon .star) ∧ name ≠ [] ∧ ∀ c ∈ name, isNameChar c = true

variable {item : SegmentItem}

/-- An optional parameter is one after a colon, and its modifier allows it to be left out. -/
theorem IsOptional.exists_parameter (optional : item.IsOptional) :
    ∃ modifier name, item = .parameter (.colon modifier) name ∧ modifier.mayBeEmpty = true ∧
      (ParameterKind.colon modifier).Names name := by
  cases item with
  | literal text => exact absurd optional id
  | parameter kind name =>
    obtain ⟨rfl | rfl, named⟩ := optional
    · exact ⟨.optional, name, rfl, rfl, named⟩
    · exact ⟨.star, name, rfl, rfl, named⟩

/-- An optional parameter is read as a whole. -/
theorem IsOptional.readable (optional : item.IsOptional) : item.Readable := by
  obtain ⟨modifier, name, rfl, -, named⟩ := optional.exists_parameter
  exact named

/-- An optional parameter needs no converter. -/
theorem IsOptional.known (optional : item.IsOptional) (converters : Converters) :
    item.Known converters := by
  obtain ⟨modifier, name, rfl, -, -⟩ := optional.exists_parameter
  trivial

/-- An optional parameter is suited by no value. -/
theorem IsOptional.suited (optional : item.IsOptional) : item.Suited fun _ => .absent := by
  obtain ⟨modifier, name, rfl, empty, -⟩ := optional.exists_parameter
  exact empty

/-- Of an empty segment an optional parameter takes nothing. -/
theorem IsOptional.blocks_root (optional : item.IsOptional) (options : Options) :
    item.blocks options [[]] = [[]] := by
  obtain ⟨modifier, name, rfl, empty, -⟩ := optional.exists_parameter
  have kept : (ParameterKind.colon modifier).modifier.mayBeEmpty = true := empty
  rw [blocks, ParameterKind.blocks, kept]
  rfl

end SegmentItem

section Root

variable {items : List SegmentItem} {options : Options} {route : Route}

/-- Optional parameters leave the root to the end of the route. -/
theorem choose_root (optional : ∀ item ∈ items, item.IsOptional) (options : Options) :
    choose options items [[]] =
      if tailAccepts options [[]] then some (items.map fun _ => []) else none := by
  induction items with
  | nil => rfl
  | cons item items ih =>
    obtain ⟨first, others⟩ := List.forall_mem_cons.1 optional
    rw [choose, first.blocks_root options, List.findSome?_singleton, List.length_nil,
      List.drop_zero, ih others]
    cases tailAccepts options [[]] with
    | true => rfl
    | false => rfl

/-- Parameters that take nothing capture nothing. -/
theorem itemCaptures_nothing (items : List SegmentItem) :
    itemCaptures items (items.map fun _ => []) =
      (items.filterMap SegmentItem.key?).map fun _ => none := by
  induction items with
  | nil => rfl
  | cons item items ih =>
    cases item with
    | literal text => exact ih
    | parameter kind name => exact congrArg (none :: ·) ih

/-- The end of a route accepts the root exactly if the options are not strict about the whole of
it. -/
theorem tailAccepts_root_iff :
    tailAccepts options [[]] = true ↔ ¬ (options.strict = true ∧ options.whole = true) := by
  obtain ⟨sensitive, strict, whole, converters⟩ := options
  cases strict <;> cases whole <;> simp [tailAccepts]

/-- Optional parameters find the root where the end of the route accepts it, and capture nothing
of it. -/
theorem find_root_optional (optional : ∀ item ∈ items, item.IsOptional) (options : Options)
    (source : Text) :
    ((itemsProgram options source items).find ['/']).map (·.captures) =
      if options.strict ∧ options.whole then none
      else some ((items.filterMap SegmentItem.key?).map fun _ => none) := by
  have readable : ∀ item ∈ items, item.Readable := fun item found => (optional item found).readable
  have alone : ∀ segment ∈ [([] : Text)], IsSegment segment := by
    rw [List.forall_mem_singleton]
    exact ⟨List.not_mem_nil, List.not_mem_nil⟩
  have root : slashed [[]] = ['/'] := rfl
  have chosen := choose_root optional options
  rw [(itemsProgram options source items).find_eq_matchStart (lists_itemsExpr items)]
  by_cases strict : options.strict = true ∧ options.whole = true
  · have refused : tailAccepts options [[]] = false :=
      eq_false_of_ne_true (mt tailAccepts_root_iff.1 (not_not_intro strict))
    have groups := matchStart_items options readable source alone
    rw [chosen, refused, if_neg Bool.false_ne_true, Option.map_none, root] at groups
    rw [if_pos strict, Option.map_eq_none_iff.1 groups, Option.map_none]
  · rw [tailAccepts_root_iff.2 strict, if_pos rfl] at chosen
    obtain ⟨found, matched, captures⟩ := matchStart_chosen readable source alone chosen
    rw [root] at matched
    rw [if_neg strict, matched, Option.map_some, captures, itemCaptures_nothing]

/-- Groups that took no part give no name a value. -/
theorem Route.collect_nothing (route : Route) (convert : Bool) (items : List SegmentItem)
    (named : Table Datum) :
    route.collect convert ((items.filterMap SegmentItem.key?).zip
        ((items.filterMap SegmentItem.key?).map fun _ => none)) named [] = .ok (named, []) := by
  induction items with
  | nil => rfl
  | cons item items ih =>
    cases item with
    | literal text => exact ih
    | parameter kind name => exact ih

/-- A path in which nothing is captured, and which has no query and no fragment, has no
parameters. -/
theorem Route.paramsOf_root (route : Route) (convert : Bool) {found : Regex.Match}
    (keys : route.compiled.keys = items.filterMap SegmentItem.key?)
    (captures : found.captures = (items.filterMap SegmentItem.key?).map fun _ => none) :
    route.paramsOf convert ['/'] found = .ok Params.empty := by
  have decoded : Percent.decodeUri ['/'] = ['/'] := rfl
  have nothing := route.collect_nothing convert items Table.empty
  simp only [Route.paramsOf, keys, captures, List.map_map, Function.comp_def, Option.map_none,
    nothing, decoded]
  rfl

/-- A route of optional parameters writes the root for no values. -/
theorem resolve_root (optional : ∀ item ∈ items, item.IsOptional)
    (source : route.source = .pattern (items.flatMap SegmentItem.text)) :
    route.resolve .null .null [] = .ok ['/'] := by
  have readable : ∀ item ∈ items, item.Readable := fun item found => (optional item found).readable
  have looked : ∀ kind name, .parameter kind name ∈ items →
      Datum.lookup [] name = Assigned.absent.given := fun _ _ _ => rfl
  have nothing : items.findSome? (SegmentItem.missing? fun _ => .absent) = none :=
    List.findSome?_eq_none_iff.2 fun item found => (optional item found).suited.missing?_eq
  have none : items.flatMap (SegmentItem.listed fun _ => .absent) = [] := by
    apply List.flatMap_eq_nil_iff.2
    intro item found
    obtain ⟨modifier, name, rfl, -, -⟩ := (optional item found).exists_parameter
    rfl
  have resolved : route.resolve .null .null [] = route.resolve (.dict []) .null [] := rfl
  rw [resolved, resolve_listed readable (fun item found => (optional item found).known _) source
    (fun item found => (optional item found).suited.isWritable) looked, nothing, none]
  exact writeUrl_path _

end Root

/-- A route whose parameters may all be left out resolves no values to the root. It matches the root
unless the options are strict and the whole path has to match, and then the root has no parameters;
if they are and it has, there is no match. -/
theorem params_root {items : List SegmentItem} (optional : ∀ item ∈ items, item.IsOptional)
    (settings : Settings) (name : Text) :
    ∃ route, Route.make (.pattern (items.flatMap SegmentItem.text)) settings name = .ok route ∧
      route.resolve .null .null [] = .ok ['/'] ∧
      (route.test ['/'] = true ↔
        ¬ (settings.options.strict = true ∧ settings.options.whole = true)) ∧
      ∀ convert, route.params ['/'] convert =
        if settings.options.strict ∧ settings.options.whole then .error (.noMatch route.name ['/'])
        else .ok Params.empty := by
  have readable : ∀ item ∈ items, item.Readable := fun item found => (optional item found).readable
  have known : ∀ item ∈ items, item.Known (Converters.extended settings.options.converters) :=
    fun item found => (optional item found).known _
  obtain ⟨route, source, made, pattern, rfl, compiled⟩ := make_readable readable known name
  have captures := find_root_optional optional route.settings.options source
  have found : route.find ['/'] =
      (itemsProgram route.settings.options source items).find ['/'] := by
    rw [Route.find, compiled]
    rfl
  rw [← found] at captures
  refine ⟨route, made, resolve_root optional pattern, ?_, fun convert => ?_⟩
  · have some := congrArg Option.isSome captures
    rw [Option.isSome_map] at some
    rw [Route.test, some]
    split
    · next strict => exact iff_of_false Bool.false_ne_true (not_not_intro strict)
    · next loose => exact iff_of_true rfl loose
  · split at captures
    · next strict =>
      have none : route.find ['/'] = none := Option.map_eq_none_iff.1 captures
      rw [if_pos strict, Route.params, List.isEmpty_cons, if_neg Bool.false_ne_true, none]
    · next loose =>
      obtain ⟨whole, here, captured⟩ := Option.map_eq_some_iff.1 captures
      have keys : route.compiled.keys = items.filterMap SegmentItem.key? := by rw [compiled]
      have taken := route.paramsOf_root convert keys captured
      rw [if_neg loose, Route.params, List.isEmpty_cons, if_neg Bool.false_ne_true, here]
      exact congrArg (Except.mapError RouteError.conversion) taken

/-- The items of a pattern with a date whose parts may be left out. -/
def dateItems : List SegmentItem :=
  [.parameter (.colon .optional) "year".toList, .parameter (.colon .optional) "month".toList,
    .parameter (.colon .star) "rest".toList]

/-- No part of a date is there at the root; strictly, the root is no date. -/
theorem params_root_date :
    ∃ route, Route.make (.pattern "/:year?/:month?/:rest*".toList) Settings.standard [] =
        .ok route ∧
      route.resolve .null .null [] = .ok ['/'] ∧ route.test ['/'] = true ∧
      route.params ['/'] true = .ok Params.empty ∧
    ∃ strict, Route.make (.pattern "/:year?/:month?/:rest*".toList)
        { Settings.standard with strict := .bool true } [] = .ok strict ∧
      strict.resolve .null .null [] = .ok ['/'] ∧ strict.test ['/'] = false := by
  have optional : ∀ item ∈ dateItems, item.IsOptional := by
    simp only [dateItems, List.forall_mem_cons]
    exact ⟨⟨.inl rfl, by decide, Text.forall_mem_iff_all.2 (by decide)⟩,
      ⟨.inl rfl, by decide, Text.forall_mem_iff_all.2 (by decide)⟩,
      ⟨.inr rfl, by decide, Text.forall_mem_iff_all.2 (by decide)⟩, by simp⟩
  obtain ⟨route, made, resolved, matched, params⟩ := params_root optional Settings.standard []
  obtain ⟨strict, made', resolved', matched', -⟩ :=
    params_root optional { Settings.standard with strict := .bool true } []
  refine ⟨route, made, resolved, matched.2 (by decide), params true, strict, made', resolved', ?_⟩
  exact eq_false_of_ne_true fun found => matched'.1 found ⟨rfl, rfl⟩

end RoutePattern
