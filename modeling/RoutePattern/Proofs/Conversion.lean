import RoutePattern.Proofs.Groups.Number
import RoutePattern.Proofs.Guarded
import RoutePattern.Proofs.Loosening.Library
import RoutePattern.Proofs.QueryText

/-!
# Converted parameters

The parameters of a path that a route matches are converted one by one, the first capture of each
name (`Route.counted`). With the built-in converters this fails only for numbers: for an integer
with too many digits, and for a parameter that may be repeated, where the captured text holds all
repetitions with the leads between them (`Route.params_converted`).
-/
namespace RoutePattern

open Regex
open Regex.Scan (Captures)
open Decimal

/-! ## The converter of a parameter -/

/-- A parameter of a pattern may be repeated where its placeholder may, and has the standard
converter or a known one, whose regular expression its placeholder has then. -/
structure ParamKey.Matches (key : ParamKey) (converters : Converters) (placeholder : Placeholder) :
    Prop where
  repeated : key.repeated = placeholder.repeated
  converter : key.converter = standardConverter ∨ ∃ found,
    converters.get? key.converter = some found ∧ placeholder.regex = nonCapturing found.regex

/-- The key of a placeholder as it is read. -/
theorem matches_of_readPlaceholder {converters : Converters} {pattern text rest : Text}
    {lead : Option Char} {head : PlaceholderHead} {position : Nat} {placeholder : Placeholder}
    (read : readPlaceholder converters pattern lead head position text = .ok (placeholder, rest)) :
    ∀ key ∈ placeholder.key, key.Matches converters placeholder := by
  have keyless {made : Placeholder} (same : made.key = none) :
      ∀ key ∈ made.key, key.Matches converters made := by
    intro key found
    rw [same] at found
    exact absurd found (by simp)
  have keyed (name regex converter : Text) (optional repeated : Bool)
      (known : converter = standardConverter ∨ ∃ found,
        converters.get? converter = some found ∧ regex = nonCapturing found.regex) :
      ∀ key ∈ (keyedPlaceholder lead name regex converter optional repeated).key,
        key.Matches converters (keyedPlaceholder lead name regex converter optional repeated) := by
    intro key found
    obtain rfl := Option.some.inj found
    exact ⟨rfl, known⟩
  -- The heads in the order in which the reader tries them; only the last two make a key.
  unfold readPlaceholder at read
  split at read
  · obtain ⟨rfl, -⟩ := Prod.mk.inj (Except.ok.inj read)
    exact keyless rfl
  · obtain ⟨group, -, made⟩ := exists_of_bind read
    obtain ⟨rfl, -⟩ := Prod.mk.inj (Except.ok.inj made)
    exact keyless rfl
  · simp only at read
    split at read
    · obtain ⟨regex, -, made⟩ := exists_of_bind read
      obtain ⟨rfl, -⟩ := Prod.mk.inj (Except.ok.inj made)
      exact keyed _ _ _ _ _ (.inl rfl)
    · obtain ⟨regex, -, made⟩ := exists_of_bind read
      obtain ⟨rfl, -⟩ := Prod.mk.inj (Except.ok.inj made)
      exact keyed _ _ _ _ _ (.inl rfl)
  · simp only at read
    split at read
    · exact absurd read (by simp)
    · obtain ⟨regex, known, made⟩ := exists_of_bind read
      obtain ⟨rfl, -⟩ := Prod.mk.inj (Except.ok.inj made)
      refine keyed _ _ _ _ _ (.inr ?_)
      unfold converterRegex at known
      split at known
      · next found listed => exact ⟨found, listed, (Except.ok.inj known).symm⟩
      · exact absurd known (by simp)

/-- The keys of all placeholders of a pattern. -/
theorem matches_of_readTokens {converters : Converters} {pattern text literal : Text}
    {skip position : Nat} {tokens : List PatternToken}
    (read : readTokens converters pattern text skip position literal = .ok tokens) :
    ∀ placeholder ∈ placeholders tokens, ∀ key ∈ placeholder.key,
      key.Matches converters placeholder :=
  forall_of_readTokens (fun _ own => matches_of_readPlaceholder own) read

/-- A known converter reads numbers, or keeps texts as they are. -/
theorem builtin_cases {name : Text} {converter : Converter}
    (found : (Converters.extended Table.empty).get? name = some converter) :
    (∃ kind : NumberKind, name = kind.converter ∧ nonCapturing converter.regex = kind.source) ∨
      (∀ kind : NumberKind, name ≠ kind.converter) ∧ converter.conversion = .text := by
  obtain ⟨entry, known, rfl⟩ := Option.map_eq_some_iff.1 found
  obtain rfl : entry.1 = name := by simpa using List.find?_some known
  have member : entry ∈ Converters.builtin.entries := List.mem_of_find?_eq_some known
  have other {name : Text} (words : name = "str".toList ∨ name = "path".toList)
      (kind : NumberKind) : name ≠ kind.converter := by
    rcases words with rfl | rfl <;> cases kind <;> decide
  simp only [Converters.builtin, List.mem_cons, List.not_mem_nil, or_false] at member
  rcases member with rfl | rfl | rfl | rfl
  · exact .inr ⟨other (.inl rfl), rfl⟩
  · exact .inl ⟨.integer, rfl, by decide⟩
  · exact .inl ⟨.fraction, rfl, by decide⟩
  · exact .inr ⟨other (.inr rfl), rfl⟩

/-! ## Conversion -/

namespace NumberKind

/-- A text is a number of the kind that is not too long. -/
def Converts (kind : NumberKind) (text : Text) : Prop :=
  match kind with
  | integer => '/' ∉ text ∧ '.' ∉ text ∧ text.length ≤ digitLimit
  | fraction => '/' ∉ text ∧ text.count '.' ≤ 1

/-- A divided text is converted exactly if it is a number. -/
theorem convert_isOk_iff (kind : NumberKind) {text : Text} (divided : Divided anyDigit text) :
    (∃ datum, (Converters.extended Table.empty).convert kind.converter text = .ok datum) ↔
      kind.Converts text := by
  cases kind with
  | integer =>
    have applied : (Converters.extended Table.empty).convert integer.converter text =
        Conversion.integer.apply text := rfl
    rw [Converts, ← readInt_isOk_iff divided, applied, Conversion.apply]
    cases readInt text with
    | ok number => simp
    | error error => cases error <;> simp
  | fraction =>
    have applied : (Converters.extended Table.empty).convert fraction.converter text =
        Conversion.float.apply text := rfl
    rw [Converts, ← readFraction_isSome_iff divided, applied, Conversion.apply]
    cases readFraction text <;> simp

/-- What a parameter takes at once is a number unless it is an integer with too many digits. -/
theorem Takes.converts_iff {kind : NumberKind} {text : Text} (takes : kind.Takes text) :
    kind.Converts text ↔ (kind = integer → text.length ≤ digitLimit) := by
  obtain ⟨-, slashless, points⟩ := takes
  cases kind with
  | integer =>
    have pointless : '.' ∉ text := List.count_eq_zero.1 (Nat.le_zero.1 points)
    simp [Converts, slashless, pointless]
  | fraction => simp [Converts, slashless, points]

end NumberKind

/-- A text is converted by a built-in converter. -/
def Converts (converter text : Text) : Prop :=
  ∀ kind : NumberKind, converter = kind.converter → kind.Converts text

/-- The kinds of numbers have converters of their own. -/
theorem NumberKind.converter_inj {one two : NumberKind} :
    one.converter = two.converter ↔ one = two := by
  cases one <;> cases two <;> decide

/-- The converter of a kind of numbers. -/
theorem converts_converter {kind : NumberKind} {text : Text} :
    Converts kind.converter text ↔ kind.Converts text := by
  refine ⟨fun converts => converts kind rfl, fun converts other same => ?_⟩
  obtain rfl := NumberKind.converter_inj.1 same
  exact converts

/-! ## Collecting -/

/-- The first captures of all names but those that are known. -/
def firstCaptures : (known : List Text) → List (Option ParamKey × Option Text) →
    List (ParamKey × Text)
  | _, [] => []
  | known, (some key, some value) :: rest =>
    if known.contains key.name then firstCaptures known rest
    else (key, value) :: firstCaptures (key.name :: known) rest
  | known, _ :: rest => firstCaptures known rest

/-- A first capture is one of the captures. -/
theorem mem_of_mem_firstCaptures {known : List Text}
    {captures : List (Option ParamKey × Option Text)} {capture : ParamKey × Text}
    (found : capture ∈ firstCaptures known captures) :
    (some capture.1, some capture.2) ∈ captures := by
  fun_induction firstCaptures known captures with
  | case1 known => exact absurd found List.not_mem_nil
  | case2 known key value rest again ih => exact List.mem_cons_of_mem _ (ih found)
  | case3 known key value rest first ih =>
    rcases List.mem_cons.1 found with rfl | later
    · exact List.mem_cons_self ..
    · exact List.mem_cons_of_mem _ (ih later)
  | case4 known other rest none ih => exact List.mem_cons_of_mem _ (ih found)

namespace Route

/-- Captures are collected exactly if the first one of each name is converted. -/
theorem collect_isOk_iff (route : Route) (captures : List (Option ParamKey × Option Text))
    (named : Table Datum) (positional : List (Option Text)) {known : List Text}
    (same : ∀ name, named.contains name = known.contains name) :
    (∃ collected, collect route true captures named positional = .ok collected) ↔
      ∀ capture ∈ firstCaptures known captures,
        ∃ datum, route.converters.convert capture.1.converter capture.2 = .ok datum := by
  induction captures generalizing named positional known with
  | nil => exact iff_of_true ⟨_, rfl⟩ (List.forall_mem_nil _)
  | cons capture captures ih =>
    obtain ⟨key, value⟩ := capture
    cases key with
    | none => exact ih _ _ same
    | some key =>
      cases value with
      | none => exact ih _ _ same
      | some value =>
        simp only [collect, firstCaptures, if_true, same key.name]
        split
        · exact ih _ _ same
        · rw [List.forall_mem_cons]
          cases converted : route.converters.convert key.converter value with
          | error error => simp [bind, Except.bind]
          | ok datum =>
            have more (name : Text) : (named.set key.name datum).contains name =
                (key.name :: known).contains name := by
              rw [Table.contains, Table.get?_set, List.contains_cons, ← same name]
              by_cases here : name = key.name <;> simp [here, Table.contains]
            simpa [bind, Except.bind] using ih (named.set key.name datum) positional more

/-- The captures of a match that give named parameters their values, with their escapes decoded. -/
def counted (route : Route) (found : Match) : List (ParamKey × Text) :=
  firstCaptures [] (route.compiled.keys.zip (found.captures.map (·.map Percent.decode)))

/-- A value is decoded from what the group of its key has captured. -/
theorem exists_of_mem_counted {route : Route} {found : Match} {capture : ParamKey × Text}
    (member : capture ∈ route.counted found) :
    ∃ (index : Nat) (captured : Text), route.compiled.keys[index]? = some (some capture.1) ∧
      found.captures[index]? = some (some captured) ∧ capture.2 = Percent.decode captured := by
  obtain ⟨index, here⟩ := List.mem_iff_getElem?.1 (mem_of_mem_firstCaptures member)
  obtain ⟨key, value⟩ := List.getElem?_zip_eq_some.1 here
  rw [List.getElem?_map, Option.map_eq_some_iff] at value
  obtain ⟨optional, own, same⟩ := value
  obtain ⟨captured, rfl, decoded⟩ := Option.map_eq_some_iff.1 same
  exact ⟨index, captured, key, own, decoded.symm⟩

/-- A matched path has converted parameters exactly if the values of all names are converted. -/
theorem params_isOk_iff (route : Route) {path : Text} (given : path ≠ []) {found : Match}
    (search : route.find path = some found) :
    (∃ params, route.params path true = .ok params) ↔
      ∀ capture ∈ route.counted found,
        ∃ datum, route.converters.convert capture.1.converter capture.2 = .ok datum := by
  rw [counted, ← collect_isOk_iff route _ Table.empty [] fun _ => rfl]
  have nonempty : path.isEmpty = false := by simpa using given
  simp only [params, nonempty, search, Bool.false_eq_true, if_false]
  cases collecting : collect route true
      (route.compiled.keys.zip (found.captures.map (·.map Percent.decode))) Table.empty [] with
  | error error => simp [paramsOf, collecting, bind, Except.bind, Except.mapError]
  | ok collected => simp [paramsOf_collected route true path found collecting, Except.mapError]

end Route

/-- A match that is found begins somewhere. -/
theorem Regex.Program.exists_matchFrom {program : Program} {before after : Text} {found : Match}
    (search : program.search before after = some found) :
    ∃ before after, program.matchFrom before after = some found := by
  induction after generalizing before with
  | nil => exact ⟨_, _, search⟩
  | cons c after ih =>
    unfold Program.search at search
    split at search
    · next other here =>
      obtain rfl := Option.some.inj search
      exact ⟨_, _, here⟩
    · exact ih search

/-- Nothing in a divided text is decoded. -/
theorem decode_of_divided {text : Text} (divided : Divided anyDigit text) :
    Percent.decode text = text := by
  refine Percent.decode_eq_self_iff.2 fun high low _ _ inside => ?_
  have percent : '%' ∈ text := inside.subset (List.mem_cons_self ..)
  rcases divided.each '%' percent with digit | mark
  · exact absurd digit (by decide)
  · exact absurd mark (by decide)

/-- A route of a pattern keeps the settings and the compiled form of the pattern. -/
theorem Route.of_make {pattern name : Text} {settings : Settings} {route : Route}
    (made : Route.make (.pattern pattern) settings name = .ok route) :
    route.settings = settings ∧
      compilePattern settings.options pattern = .ok route.compiled := by
  obtain ⟨⟨compiled, url⟩, source, same⟩ := exists_of_bind made
  obtain rfl := Except.ok.inj same
  unfold compileSource at source
  split at source
  · next text other => exact absurd other (by simp)
  · next text equal =>
    obtain rfl := RouteSource.pattern.inj equal
    split at source
    · exact absurd source (by simp)
    · obtain ⟨own, compiles, equal⟩ := exists_of_bind source
      obtain ⟨rfl, -⟩ := Prod.mk.inj (Except.ok.inj equal)
      exact ⟨rfl, compiles⟩

/-- Without converters of a caller, the values of a match are divided texts where their converter
asks for numbers, and are converted otherwise. -/
theorem Route.counted_cases {options : Options} {pattern : Text} {tokens : List PatternToken}
    {route : Route} (compiles : compilePattern options pattern = .ok route.compiled)
    (plain : options.converters = Table.empty)
    (read : tokenize options.converters pattern = .ok tokens) (grouped : Grouped options tokens)
    {path : Text} {found : Match} (search : route.find path = some found)
    {capture : ParamKey × Text} (member : capture ∈ route.counted found) :
    (∃ kind : NumberKind, capture.1.converter = kind.converter ∧ Divided anyDigit capture.2 ∧
      (capture.1.repeated = false → kind.Takes capture.2)) ∨
    (∀ kind : NumberKind, capture.1.converter ≠ kind.converter) ∧
      ∃ datum, (Converters.extended Table.empty).convert capture.1.converter capture.2 =
        .ok datum := by
  obtain ⟨tokens', read', keys, count, compilation⟩ := compilePattern_ok compiles
  obtain rfl : tokens' = tokens := Except.ok.inj (read'.symm.trans read)
  have numbered := (row_of_compilePattern keys count compilation grouped).1
  obtain ⟨index, captured, key, taken, decoded⟩ := exists_of_mem_counted member
  rw [keys, keys_eq, List.getElem?_map, Option.map_eq_some_iff] at key
  obtain ⟨placeholder, own, named⟩ := key
  have known : placeholder ∈ placeholders tokens' := List.mem_of_getElem? own
  have keyed := matches_of_readTokens read placeholder known capture.1 named
  rw [plain] at keyed
  have standard : capture.1.converter = standardConverter →
      (∀ kind : NumberKind, capture.1.converter ≠ kind.converter) ∧
        ∃ datum, (Converters.extended Table.empty).convert capture.1.converter capture.2 =
          .ok datum := by
    intro same
    rw [same]
    exact ⟨fun kind => by cases kind <;> decide, _, rfl⟩
  -- A named converter is a built-in one here, and its source tells what was taken.
  rcases keyed.converter with same | ⟨converter, listed, regex⟩
  · exact .inr (standard same)
  · rcases builtin_cases listed with ⟨kind, same, source⟩ | ⟨others, text⟩
    · obtain ⟨places, place⟩ := exists_groupPlace own 1
      obtain ⟨before, after, matching⟩ := Program.exists_matchFrom search
      obtain ⟨divided, single⟩ := kind.fits_captured compilation own
        (isLead_of_readTokens read placeholder known) (regex.trans source) place
        (numbered index places place) matching taken
      rw [decode_of_divided divided] at decoded
      rw [decoded, keyed.repeated]
      exact .inl ⟨kind, same, divided, single⟩
    · refine .inr ⟨others, .text capture.2, ?_⟩
      rw [Converters.convert, listed]
      simp only [text, Conversion.apply]

/-- A path that a route does not match has no parameters either way. Where the parentheses of every
parameter are those of its group and no converters are added to the built-in ones, a path that it
matches has converted parameters exactly if the first capture of each name is a number where its
converter asks for one: without a slash, and with no point and no more digits than are read for an
integer, or with at most one point for a fraction. A parameter that is not repeated captures such a
number unless it is an integer with too many digits. -/
theorem Route.params_converted {pattern name : Text} {settings : Settings} {route : Route}
    (made : Route.make (.pattern pattern) settings name = .ok route)
    (plain : settings.options.converters = Table.empty) :
    (∀ path, path = [] ∨ route.find path = none →
      route.params path true = route.params path false) ∧
    ∃ tokens, tokenize settings.options.converters pattern = .ok tokens ∧
      (Grouped settings.options tokens →
        ∀ path found, path ≠ [] → route.find path = some found →
          ((∃ params, route.params path true = .ok params) ↔
            ∀ capture ∈ route.counted found, Converts capture.1.converter capture.2) ∧
          ∀ capture ∈ route.counted found, capture.1.repeated = false →
            (Converts capture.1.converter capture.2 ↔
              (capture.1.converter = NumberKind.integer.converter →
                capture.2.length ≤ digitLimit))) := by
  obtain ⟨kept, compiles⟩ := Route.of_make made
  refine ⟨fun path refused => ?_, ?_⟩
  · rcases refused with rfl | missing
    · rfl
    · simp only [Route.params, missing]
  obtain ⟨tokens, read, -⟩ := compilePattern_ok compiles
  refine ⟨tokens, read, fun grouped path found given search => ?_⟩
  have converters : route.converters = Converters.extended Table.empty := by
    rw [Route.converters, kept, plain]
  have cases (capture : ParamKey × Text) (member : capture ∈ route.counted found) :=
    Route.counted_cases compiles plain read grouped search member
  constructor
  · rw [Route.params_isOk_iff route given search, converters]
    refine forall₂_congr fun capture member => ?_
    rcases cases capture member with ⟨kind, same, divided, -⟩ | ⟨others, converted⟩
    · rw [same, kind.convert_isOk_iff divided, converts_converter]
    · exact iff_of_true converted fun kind same => absurd same (others kind)
  · intro capture member single
    rcases cases capture member with ⟨kind, same, -, taken⟩ | ⟨others, -⟩
    · rw [same, converts_converter, (taken single).converts_iff, NumberKind.converter_inj]
    · exact iff_of_true (fun kind same => absurd same (others kind))
        fun same => absurd same (others .integer)

/-- A pattern of an integer that may be repeated. -/
def repeatedIntegerPattern : Text := "/{id:int}+".toList

/-- The token of an integer that may be repeated. -/
def repeatedIntegerTokens : List PatternToken :=
  [.placeholder (keyedPlaceholder (some '/') "id".toList NumberKind.integer.source
    NumberKind.integer.converter false true)]

/-- The parentheses of the integer are those of the group. -/
theorem grouped_repeatedInteger : Grouped Settings.standard.options repeatedIntegerTokens := by
  intro places member
  have known : groupPlaces 1 repeatedIntegerTokens = [(2, 15)] := by decide
  rw [known] at member
  obtain rfl := List.mem_singleton.1 member
  exact ⟨1, _, Scan.reaches_of_after (show Scan.after 13 _ = _ from rfl), rfl, rfl, rfl, rfl, rfl⟩

/-- Two integers with a slash between them are one value of a parameter that may be repeated, and
this value is no integer. -/
theorem Route.params_converted_repeated : ∃ route found,
    Route.make (.pattern repeatedIntegerPattern) Settings.standard [] = .ok route ∧
      Settings.standard.options.converters = Table.empty ∧
      route.find "/1/2".toList = some found ∧
      (route.counted found).map (·.2) = ["1/2".toList] ∧
      ¬∃ params, route.params "/1/2".toList true = .ok params := by
  obtain ⟨route, made⟩ : ∃ route,
      Route.make (.pattern repeatedIntegerPattern) Settings.standard [] = .ok route := ⟨_, rfl⟩
  have evaluated :
      ((Route.make (.pattern repeatedIntegerPattern) Settings.standard []).toOption.bind
        fun route => (route.find "/1/2".toList).map fun found =>
          (route.counted found).map fun capture => (capture.1.converter, capture.2)) =
        some [(NumberKind.integer.converter, "1/2".toList)] := by decide +kernel
  rw [made] at evaluated
  obtain ⟨found, search, counted⟩ := Option.map_eq_some_iff.1 evaluated
  obtain ⟨-, tokens, read, converted⟩ := Route.params_converted made rfl
  have known : tokenize Settings.standard.options.converters repeatedIntegerPattern =
      .ok repeatedIntegerTokens := rfl
  obtain rfl : repeatedIntegerTokens = tokens := Except.ok.inj (known.symm.trans read)
  obtain ⟨exact, -⟩ := converted grouped_repeatedInteger _ found (by decide) search
  refine ⟨route, found, made, rfl, search, ?_, fun taken => ?_⟩
  · simpa using congrArg (List.map (·.2)) counted
  · obtain ⟨capture, member, same⟩ := List.mem_map.1 (counted ▸ List.mem_singleton_self _)
    obtain ⟨converter, value⟩ := Prod.mk.inj same
    have number := exact.1 taken capture member
    rw [converter, value, converts_converter] at number
    exact number.1 (by decide)

end RoutePattern
