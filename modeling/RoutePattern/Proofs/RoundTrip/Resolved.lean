import RoutePattern.Proofs.Entries
import RoutePattern.Proofs.RoundTrip.Found

/-!
# Parameters of resolved paths

The parameters of a path that a route has resolved are the values that it was resolved with
(`params_resolve`): decoding undoes the encoding of each segment, and no value of the query takes
the name of a parameter.
-/
namespace RoutePattern

open Regex

/-! ## Values -/

section Values

variable {assigned : Text → Assigned}

/-- The text that a parameter captures with the segments of its value, decoded. -/
theorem decode_captureText (value : Assigned) :
    (captureText (value.texts.map Percent.encode)).map Percent.decode =
      if value.texts.isEmpty then none else some (Text.join ['/'] value.texts) := by
  unfold captureText
  cases value.texts with
  | nil => rfl
  | cons text texts =>
    show some (Percent.decode (Text.join ['/'] ((text :: texts).map Percent.encode))) = _
    rw [Percent.decode_join_encode]
    rfl

/-- Without texts nothing comes back of a value that suits a parameter. -/
theorem Assigned.Suits.back_eq_none {kind : ParameterKind} {value : Assigned}
    (suits : value.Suits kind) (empty : value.texts = []) : value.back = none := by
  cases value with
  | absent => rfl
  | one text => exact absurd empty (by simp [texts])
  | several texts => exact absurd empty suits.2.1
  | number n => exact absurd empty (by simp [texts])

/-- The texts of a value that suits a parameter are converted to the value. -/
theorem convert_texts {kind : ParameterKind} {value : Assigned} (suits : value.Suits kind)
    (given : value.texts ≠ []) :
    ∃ datum, value.back = some datum ∧ (Converters.extended Table.empty).convert kind.converter
      (Text.join ['/'] value.texts) = .ok datum := by
  -- A number is read back from its decimals, and any other value is a text already.
  cases integer : kind.isInteger with
  | true =>
    obtain ⟨n, rfl, short⟩ := suits.number_of_isInteger integer
    refine ⟨.int n, rfl, ?_⟩
    have known : (Converters.extended Table.empty).get? kind.converter =
        some ⟨"\\d+".toList, .integer⟩ := by
      rw [ParameterKind.converter, if_pos integer]
      rfl
    have read := Decimal.readInt_ofNat short
    simp only [Converters.convert, known, Conversion.apply, Assigned.texts, Text.join, read]
  | false =>
    have known : (Converters.extended Table.empty).get? kind.converter =
        some ⟨"[^/]+?".toList, .text⟩ := by
      rw [ParameterKind.converter, integer]
      rfl
    have converted : (Converters.extended Table.empty).convert kind.converter
        (Text.join ['/'] value.texts) = .ok (.text (Text.join ['/'] value.texts)) := by
      simp only [Converters.convert, known, Conversion.apply]
    cases value with
    | absent => exact absurd rfl given
    | one text => exact ⟨_, rfl, converted⟩
    | several texts => exact ⟨_, rfl, converted⟩
    | number n =>
      rw [suits.1] at integer
      exact absurd integer (by decide)

end Values

/-! ## Tables -/

/-- Setting new names keeps the value of a name that has one. -/
theorem Table.get?_foldl_setNew {α β : Type} (entries : List (Text × β)) (value : β → α)
    {table : Table α} {name : Text} {known : α} (found : table.get? name = some known) :
    (entries.foldl (fun table entry => table.setNew entry.1 (value entry.2)) table).get? name =
      some known := by
  rw [get?_merge, found, Option.some_or]

/-! ## Collecting -/

section Collecting

variable {assigned : Text → Assigned} {route : Route}

/-- The captures of the items of a written path are collected as the values. -/
theorem collect_items (converters : route.converters = Converters.extended Table.empty)
    {items : List SegmentItem} (suited : ∀ item ∈ items, item.Suited assigned)
    (distinct : (items.filterMap SegmentItem.name?).Nodup) {named : Table Datum}
    (fresh : ∀ name ∈ items.filterMap SegmentItem.name?, named.get? name = none) :
    ∃ table, route.collect true ((items.filterMap SegmentItem.key?).zip
        ((itemCaptures items (items.map (SegmentItem.written assigned))).map
          (·.map Percent.decode))) named [] = .ok (table, []) ∧
      (∀ name ∈ items.filterMap SegmentItem.name?, table.get? name = (assigned name).back) ∧
      ∀ name ∉ items.filterMap SegmentItem.name?, table.get? name = named.get? name := by
  induction items generalizing named with
  | nil => exact ⟨named, rfl, by simp, fun _ _ => rfl⟩
  | cons item items ih =>
    have others : ∀ other ∈ items, other.Suited assigned :=
      fun other found => suited other (List.mem_cons_of_mem _ found)
    cases item with
    | literal text => exact ih others distinct fresh
    | parameter kind name =>
      have names : (SegmentItem.parameter kind name :: items).filterMap SegmentItem.name? =
          name :: items.filterMap SegmentItem.name? := rfl
      rw [names] at distinct fresh ⊢
      obtain ⟨here, distinct'⟩ := List.nodup_cons.1 distinct
      have missing := fresh name (List.mem_cons_self ..)
      have suits : (assigned name).Suits kind := suited _ (List.mem_cons_self ..)
      have captured : itemCaptures (.parameter kind name :: items)
            ((SegmentItem.parameter kind name :: items).map (SegmentItem.written assigned)) =
          captureText ((assigned name).texts.map Percent.encode) ::
            itemCaptures items (items.map (SegmentItem.written assigned)) := rfl
      have keys : (SegmentItem.parameter kind name :: items).filterMap SegmentItem.key? =
          (kind.placeholder name).key :: items.filterMap SegmentItem.key? := rfl
      rw [captured, keys, List.map_cons, decode_captureText, List.zip_cons_cons]
      -- A parameter without texts has captured nothing, and its name is left out of the table.
      by_cases empty : (assigned name).texts = []
      · obtain ⟨table, collected, given, kept⟩ := ih others distinct' fun other found =>
          fresh other (List.mem_cons_of_mem _ found)
        refine ⟨table, ?_, ?_, fun other outside => kept other (mt (List.mem_cons_of_mem _) outside)⟩
        · rw [empty]
          exact collected
        · intro other found
          rcases List.mem_cons.1 found with rfl | found
          · rw [kept other here, missing, suits.back_eq_none empty]
          · exact given other found
      · obtain ⟨datum, back, converted⟩ := convert_texts suits empty
        have fresh' : ∀ other ∈ items.filterMap SegmentItem.name?,
            (named.set name datum).get? other = none := by
          intro other found
          rw [Table.get?_set, if_neg]
          · exact fresh other (List.mem_cons_of_mem _ found)
          · rintro rfl
            exact here found
        obtain ⟨table, collected, given, kept⟩ := ih others distinct' fresh'
        have full : (assigned name).texts.isEmpty = false := by simpa using empty
        have unknown : named.contains name = false := by rw [Table.contains, missing]; rfl
        refine ⟨table, ?_, ?_, ?_⟩
        · simp only [full, Bool.false_eq_true, if_false, Route.collect, ParameterKind.placeholder,
            keyedPlaceholder, unknown, if_true, converters, converted]
          exact collected
        · intro other found
          rcases List.mem_cons.1 found with rfl | found
          · rw [kept other here, Table.get?_set, if_pos rfl, back]
          · exact given other found
        · intro other outside
          rw [List.mem_cons, not_or] at outside
          rw [kept other outside.2, Table.get?_set, if_neg outside.1]

end Collecting

/-! ## Routes -/

section Routes

variable {items : List SegmentItem} {settings : Settings} {assigned : Text → Assigned}

/-- No slash stands in a name. -/
theorem ParameterKind.Names.slashless {kind : ParameterKind} {name : Text}
    (named : kind.Names name) : '/' ∉ name := by
  intro inside
  have ascii (named : IsName name) : False :=
    named.forall (· ≠ '/') (by decide) '/' inside rfl
  cases kind with
  | colon modifier => exact absurd (named.2 '/' inside) (by decide)
  | braces modifier => exact ascii named
  | integer => exact ascii named

/-- An item is written in a pattern as one segment, which is not empty. -/
theorem SegmentItem.text_eq_slashed {item : SegmentItem} (readable : item.Readable) :
    ∃ segment, item.text = slashed [segment] ∧ segment ≠ [] ∧ '/' ∉ segment := by
  cases item with
  | literal text =>
    refine ⟨text, by simp [SegmentItem.text], readable.1, fun inside => ?_⟩
    exact readable.2 '/' inside (by decide)
  | parameter kind name =>
    have slashless : '/' ∉ name := ParameterKind.Names.slashless readable
    have sign (modifier : Modifier) : '/' ∉ modifier.text := by
      cases modifier <;> decide
    cases kind with
    | colon modifier =>
      exact ⟨':' :: name ++ modifier.text, by simp [SegmentItem.text, ParameterKind.text], by simp,
        by simp [slashless, sign]⟩
    | braces modifier =>
      exact ⟨'\x7b' :: name ++ '\x7d' :: modifier.text,
        by simp [SegmentItem.text, ParameterKind.text], by simp, by simp [slashless, sign]⟩
    | integer =>
      exact ⟨'\x7b' :: name ++ [':', 'i', 'n', 't', '\x7d'],
        by simp [SegmentItem.text, ParameterKind.text], by simp, by simp [slashless]⟩

/-- A pattern of whole segments does not end in a slash. -/
theorem getLast?_pattern (readable : ∀ item ∈ items, item.Readable) :
    (items.flatMap SegmentItem.text).getLast? ≠ some '/' := by
  have cut : ∃ segments, items.flatMap SegmentItem.text = slashed segments ∧
      ∀ segment ∈ segments, segment ≠ [] ∧ '/' ∉ segment := by
    induction items with
    | nil => exact ⟨[], rfl, by simp⟩
    | cons item items ih =>
      obtain ⟨segment, same, whole⟩ := SegmentItem.text_eq_slashed (readable item (by simp))
      obtain ⟨segments, rest, others⟩ := ih fun other found => readable other (by simp [found])
      refine ⟨segment :: segments, ?_, ?_⟩
      · rw [List.flatMap_cons, same, rest, ← slashed_append]
        rfl
      · intro other found
        rcases List.mem_cons.1 found with rfl | found
        · exact whole
        · exact others other found
  obtain ⟨segments, same, whole⟩ := cut
  rw [same]
  exact getLast?_slashed whole

/-- The converters of a caller who has none know what every item needs. -/
theorem known_of_plain (plain : settings.options.converters = Table.empty) :
    ∀ item ∈ items, item.Known (Converters.extended settings.options.converters) := by
  intro item _
  rw [plain]
  cases item with
  | literal text => trivial
  | parameter kind name => exact kind.known_builtin

/-- A pattern that compiles and does not end in a slash makes a route. -/
theorem Route.make_pattern {pattern : Text} {compiled : CompiledPath}
    (compiles : compilePattern settings.options pattern = .ok compiled)
    (last : pattern.getLast? ≠ some '/') (name : Text) :
    ∃ route, Route.make (.pattern pattern) settings name = .ok route ∧
      route.source = .pattern pattern ∧ route.settings = settings ∧ route.compiled = compiled := by
  have reachable : Route.isUnreachable settings.options pattern = false := by
    rw [Route.isUnreachable, beq_eq_false_iff_ne.2 last, Bool.and_false]
  refine ⟨⟨.pattern pattern, if name.isEmpty then pattern else name, settings, compiled,
    UrlRecord.read pattern⟩, ?_, rfl, rfl, rfl⟩
  simp only [Route.make, Route.compileSource, reachable, compiles, Bool.false_eq_true, if_false]
  rfl

/-- A pattern of items that are read as a whole makes a route. -/
theorem make_readable (readable : ∀ item ∈ items, item.Readable)
    (known : ∀ item ∈ items, item.Known (Converters.extended settings.options.converters))
    (name : Text) :
    ∃ route source, Route.make (.pattern (items.flatMap SegmentItem.text)) settings name = .ok route ∧
      route.source = .pattern (items.flatMap SegmentItem.text) ∧ route.settings = settings ∧
      route.compiled =
        ⟨itemsProgram settings.options source items, items.filterMap SegmentItem.key?⟩ := by
  obtain ⟨source, compiled⟩ := compilePattern_readable readable known
  obtain ⟨route, made, pattern, kept, same⟩ :=
    Route.make_pattern compiled (getLast?_pattern readable) name
  exact ⟨route, source, made, pattern, kept, same⟩

/-- A pattern of whole segments makes a route. -/
theorem make_items (wellFormed : ∀ item ∈ items, item.WellFormed)
    (plain : settings.options.converters = Table.empty) (name : Text) :
    ∃ route source, Route.make (.pattern (items.flatMap SegmentItem.text)) settings name = .ok route ∧
      route.source = .pattern (items.flatMap SegmentItem.text) ∧ route.settings = settings ∧
      route.compiled =
        ⟨itemsProgram settings.options source items, items.filterMap SegmentItem.key?⟩ :=
  make_readable (fun item found => (wellFormed item found).readable) (known_of_plain plain) name

variable {route : Route}

/-- A route writes the segments of its items in front of a query and a fragment, or reports the
first parameter that needs a value and has none. -/
theorem resolve_listed (readable : ∀ item ∈ items, item.Readable)
    (known : ∀ item ∈ items, item.Known (Converters.extended route.settings.options.converters))
    (source : route.source = .pattern (items.flatMap SegmentItem.text))
    (writable : ∀ item ∈ items, item.IsWritable assigned) {entries : List (Datum × Datum)}
    (looked : ∀ kind name, .parameter kind name ∈ items →
      Datum.lookup entries name = (assigned name).given) (query : Datum) (fragment : Text) :
    route.resolve (.dict entries) query fragment =
      (items.findSome? (SegmentItem.missing? assigned)).elim
        (Route.writeUrl (slashed (orRoot (items.flatMap (SegmentItem.listed assigned)))) query
          fragment)
        fun needed => .error (.missingValue needed route.name) := by
  have tokens : route.tokens? = some (itemTokens [] items) := by
    simp only [Route.tokens?, source, tokenize_items readable known]
    rfl
  have written := writeTokens_listed route.name looked writable []
  simp only [Route.resolve, tokens, Route.entriesOf, written]
  cases items.findSome? (SegmentItem.missing? assigned) with
  | some needed => rfl
  | none => cases items.flatMap (SegmentItem.listed assigned) <;> rfl

/-- Where the values suit the items, the segments are theirs. -/
theorem resolve_readable (readable : ∀ item ∈ items, item.Readable)
    (known : ∀ item ∈ items, item.Known (Converters.extended route.settings.options.converters))
    (source : route.source = .pattern (items.flatMap SegmentItem.text))
    (suited : ∀ item ∈ items, item.Suited assigned)
    (required : ∃ item ∈ items, item.modifier.mayBeEmpty = false)
    {entries : List (Datum × Datum)}
    (looked : ∀ kind name, .parameter kind name ∈ items →
      Datum.lookup entries name = (assigned name).given) (query : Datum) (fragment : Text) :
    route.resolve (.dict entries) query fragment =
      Route.writeUrl (slashed (items.flatMap (SegmentItem.written assigned))) query fragment := by
  have nothing : items.findSome? (SegmentItem.missing? assigned) = none :=
    List.findSome?_eq_none_iff.2 fun item found => (suited item found).missing?_eq
  have same : items.flatMap (SegmentItem.listed assigned) =
      items.flatMap (SegmentItem.written assigned) :=
    List.flatMap_congr fun item found => (suited item found).listed_eq
  have writable : ∀ item ∈ items, item.IsWritable assigned :=
    fun item found => (suited item found).isWritable
  obtain ⟨segment, segments, full⟩ := List.exists_cons_of_ne_nil (written_ne_nil suited required)
  rw [resolve_listed readable known source writable looked, nothing, same, full]
  rfl

/-- A route of whole segments writes the segments of its items in front of a query and a
fragment. -/
theorem resolve_items (wellFormed : ∀ item ∈ items, item.WellFormed)
    (plain : route.settings.options.converters = Table.empty)
    (source : route.source = .pattern (items.flatMap SegmentItem.text))
    (suited : ∀ item ∈ items, item.Suited assigned)
    (required : ∃ item ∈ items, item.modifier.mayBeEmpty = false)
    {entries : List (Datum × Datum)}
    (looked : ∀ kind name, .parameter kind name ∈ items →
      Datum.lookup entries name = (assigned name).given) (query : Datum) (fragment : Text) :
    route.resolve (.dict entries) query fragment =
      Route.writeUrl (slashed (items.flatMap (SegmentItem.written assigned))) query fragment :=
  resolve_readable (fun item found => (wellFormed item found).readable) (known_of_plain plain)
    source suited required looked query fragment

/-- The parameters of a path that was written for values, whatever comes after it. -/
theorem params_written (wellFormed : ∀ item ∈ items, item.WellFormed)
    (path : ∀ item ∈ items, item.IsPath) (suited : ∀ item ∈ items, item.Suited assigned)
    (required : ∃ item ∈ items, item.modifier.mayBeEmpty = false)
    (few : items.countP SegmentItem.isModified ≤ 1)
    (distinct : (items.filterMap SegmentItem.name?).Nodup) {source : Text}
    (plain : route.settings.options.converters = Table.empty)
    (compiled : route.compiled =
      ⟨itemsProgram route.settings.options source items, items.filterMap SegmentItem.key?⟩)
    {rest : Text} (after : AfterPath rest) :
    ∃ params, route.params
        (slashed (items.flatMap (SegmentItem.written assigned)) ++ rest) true = .ok params ∧
      (∀ name ∈ items.filterMap SegmentItem.name?, ∀ datum, (assigned name).back = some datum →
        params.named.get? name = some datum) ∧
      params.positional = [] := by
  obtain ⟨found, matched, captures⟩ :=
    find_written route.settings.options (fun item found => (wellFormed item found).readable) path
      suited required few source after
  have converters : route.converters = Converters.extended Table.empty := by
    rw [Route.converters, plain]
  have fresh : ∀ name ∈ items.filterMap SegmentItem.name?,
      (Table.empty : Table Datum).get? name = none := fun _ _ => rfl
  obtain ⟨table, collected, given, -⟩ := collect_items converters suited distinct fresh
  obtain ⟨segment, segments, same⟩ := List.exists_cons_of_ne_nil (written_ne_nil suited required)
  have full : (slashed (items.flatMap (SegmentItem.written assigned)) ++ rest).isEmpty = false := by
    rw [same]
    rfl
  have here : route.find (slashed (items.flatMap (SegmentItem.written assigned)) ++ rest) =
      some found := by
    rw [Route.find, compiled]
    exact matched
  rw [← captures] at collected
  simp only [Route.params, full, Bool.false_eq_true, if_false, here, Route.paramsOf, compiled,
    collected]
  refine ⟨_, rfl, ?_, rfl⟩
  intro name member datum back
  exact Table.get?_foldl_setNew _ Datum.text ((given name member).trans back)

end Routes

/-- A route of whole segments gives back the values that a path is resolved with. Its items are
literals and parameters with names of their own, of which at most one has a modifier and at least
one needs a segment; every value suits its parameter, and a query and a fragment may come after the
path. -/
theorem params_resolve {items : List SegmentItem} {settings : Settings}
    {assigned : Text → Assigned} {entries : List (Datum × Datum)}
    (wellFormed : ∀ item ∈ items, item.WellFormed) (path : ∀ item ∈ items, item.IsPath)
    (distinct : (items.filterMap SegmentItem.name?).Nodup)
    (few : items.countP SegmentItem.isModified ≤ 1)
    (required : ∃ item ∈ items, item.modifier.mayBeEmpty = false)
    (plain : settings.options.converters = Table.empty)
    (suited : ∀ item ∈ items, item.Suited assigned)
    (looked : ∀ kind name, .parameter kind name ∈ items →
      Datum.lookup entries name = (assigned name).given)
    (name fragment : Text) (pairs : List (Text × Text)) :
    ∃ route resolved params,
      Route.make (.pattern (items.flatMap SegmentItem.text)) settings name = .ok route ∧
      route.resolve (.dict entries) (.dict (pairs.map fun pair => (.text pair.1, .text pair.2)))
        fragment = .ok resolved ∧
      route.params resolved true = .ok params ∧
      (∀ name ∈ items.filterMap SegmentItem.name?, ∀ datum, (assigned name).back = some datum →
        params.named.get? name = some datum) ∧
      params.positional = [] := by
  obtain ⟨route, source, made, pattern, rfl, compiled⟩ := make_items wellFormed plain name
  obtain ⟨rest, url, after⟩ := writeUrl_texts
    (slashed (items.flatMap (SegmentItem.written assigned))) fragment pairs
  obtain ⟨params, parsed, named, positional⟩ :=
    params_written wellFormed path suited required few distinct plain compiled after
  refine ⟨route, _, params, made, ?_, parsed, named, positional⟩
  rw [resolve_items wellFormed plain pattern suited required looked, url]

/-- The items of a pattern with a parameter of several segments in front of an integer. -/
def archiveItems : List SegmentItem :=
  [.literal "blog".toList, .parameter (.braces .star) "path".toList,
    .parameter .integer "page".toList]

/-- Values for an archive: segments of which one holds a slash, and a number. -/
def archiveValues (name : Text) : Assigned :=
  if name = "path".toList then .several ["a b".toList, "c/d".toList] else .number 7

/-- A list and a number come back from a path whose query takes the name of a parameter. -/
theorem params_resolve_archive :
    ∃ route resolved params,
      Route.make (.pattern "/blog/{path}*/{page:int}".toList) Settings.standard [] = .ok route ∧
      route.resolve (.dict [(.text "path".toList, .list [.text "a b".toList, .text "c/d".toList]),
          (.text "page".toList, .int 7)]) (.dict [(.text "path".toList, .text "x&y".toList)])
        "top".toList = .ok resolved ∧
      route.params resolved true = .ok params ∧
      params.named.get? "path".toList = some (.text "a b/c/d".toList) ∧
      params.named.get? "page".toList = some (.int 7) ∧ params.positional = [] := by
  have suited : ∀ item ∈ archiveItems, item.Suited archiveValues := by
    have short : 7 < 10 ^ Decimal.digitLimit :=
      Nat.lt_of_lt_of_le (show 7 < 10 ^ 1 by decide) (Nat.pow_le_pow_right (by decide) (by decide))
    simp only [archiveItems, List.forall_mem_cons]
    exact ⟨trivial, ⟨rfl, by decide, by decide⟩, ⟨rfl, short⟩, by simp⟩
  have looked : ∀ kind name, .parameter kind name ∈ archiveItems →
      Datum.lookup [(.text "path".toList, .list [.text "a b".toList, .text "c/d".toList]),
        (.text "page".toList, .int 7)] name = (archiveValues name).given := by
    intro kind name found
    simp only [archiveItems, List.mem_cons, List.not_mem_nil, SegmentItem.parameter.injEq,
      reduceCtorEq, false_or, or_false] at found
    rcases found with ⟨rfl, rfl⟩ | ⟨rfl, rfl⟩
    · rfl
    · rfl
  obtain ⟨route, resolved, params, made, written, parsed, named, positional⟩ :=
    params_resolve (by decide) (by decide) (by decide) (by decide) ⟨_, List.mem_cons_self .., rfl⟩
      (show Settings.standard.options.converters = Table.empty from rfl) suited looked []
      "top".toList [("path".toList, "x&y".toList)]
  refine ⟨route, resolved, params, made, written, parsed, ?_, ?_, positional⟩
  · exact named "path".toList (by decide) _ rfl
  · exact named "page".toList (by decide) _ rfl

/-!
## Routes of single segments

A literal without a delimiter of a URL and a parameter after a colon without a modifier stand for
one segment each. A route of such items writes one segment for each of them (`resolve_single`), and
finds these segments again, whatever comes after the path (`find_single`).
-/

namespace SegmentItem

/-- An item that stands for one segment: a literal without a delimiter of a URL, or a parameter
after a colon without a modifier. -/
def IsSingle : SegmentItem → Prop
  | literal text => text ≠ [] ∧ ∀ c ∈ text, c ∉ literalBreaks ∧ c ≠ '?' ∧ c ≠ '#'
  | parameter kind name => kind = .colon .once ∧ name ≠ [] ∧ ∀ c ∈ name, isNameChar c = true

/-- The segment that a single item is written as. -/
def segment (assigned : Text → Text) : SegmentItem → Text
  | literal text => text
  | parameter _ name => Percent.encode (assigned name)

variable {item : SegmentItem}

/-- A single item is read as a whole. -/
theorem IsSingle.readable (single : item.IsSingle) : item.Readable := by
  cases item with
  | literal text => exact ⟨single.1, fun c found => (single.2 c found).1⟩
  | parameter kind name =>
    obtain ⟨rfl, named⟩ := single
    exact named

/-- A single item needs no converter. -/
theorem IsSingle.known (single : item.IsSingle) (converters : Converters) :
    item.Known converters := by
  cases item with
  | literal text => trivial
  | parameter kind name =>
    obtain ⟨rfl, -⟩ := single
    trivial

/-- A single item holds no delimiter of a URL. -/
theorem IsSingle.isPath (single : item.IsSingle) : item.IsPath := by
  cases item with
  | literal text =>
    exact ⟨fun found => (single.2 _ found).2.1 rfl, fun found => (single.2 _ found).2.2 rfl⟩
  | parameter kind name => trivial

/-- A single item has no modifier. -/
theorem IsSingle.modifier_eq (single : item.IsSingle) : item.modifier = .once := by
  cases item with
  | literal text => rfl
  | parameter kind name =>
    obtain ⟨rfl, -⟩ := single
    rfl

/-- A text that is not empty suits a single item. -/
theorem IsSingle.suited (single : item.IsSingle) {assigned : Text → Text}
    (given : ∀ name ∈ item.name?, assigned name ≠ []) :
    item.Suited fun name => .one (assigned name) := by
  cases item with
  | literal text => trivial
  | parameter kind name =>
    obtain ⟨rfl, -⟩ := single
    exact ⟨rfl, given name rfl⟩

/-- An item is written for single texts as its segment. -/
theorem written_one (item : SegmentItem) (assigned : Text → Text) :
    item.written (fun name => .one (assigned name)) = [item.segment assigned] := by
  cases item with
  | literal text => rfl
  | parameter kind name => rfl

end SegmentItem

section Single

variable {items : List SegmentItem} {assigned : Text → Text} {route : Route}

/-- Single items are written for single texts as their segments. -/
theorem flatMap_written_one (items : List SegmentItem) (assigned : Text → Text) :
    items.flatMap (SegmentItem.written fun name => .one (assigned name)) =
      items.map (SegmentItem.segment assigned) := by
  rw [List.map_eq_flatMap]
  exact List.flatMap_congr fun item _ => item.written_one assigned

/-- Texts that are not empty suit single items. -/
theorem suited_single (single : ∀ item ∈ items, item.IsSingle)
    (full : ∀ name ∈ items.filterMap SegmentItem.name?, assigned name ≠ []) :
    ∀ item ∈ items, item.Suited fun name => .one (assigned name) :=
  fun item found => (single item found).suited fun name named =>
    full name (List.mem_filterMap.2 ⟨item, found, named⟩)

/-- Some item of a route of single items needs a segment. -/
theorem required_single (single : ∀ item ∈ items, item.IsSingle) (given : items ≠ []) :
    ∃ item ∈ items, item.modifier.mayBeEmpty = false := by
  obtain ⟨item, items, rfl⟩ := List.exists_cons_of_ne_nil given
  have first := (single item (List.mem_cons_self ..)).modifier_eq
  exact ⟨item, List.mem_cons_self .., by rw [first]; rfl⟩

/-- A route of single items writes the segments of the values for them, in front of a query and a
fragment. -/
theorem resolve_single (single : ∀ item ∈ items, item.IsSingle) (given : items ≠ [])
    (source : route.source = .pattern (items.flatMap SegmentItem.text))
    {entries : List (Datum × Datum)}
    (filled : ∀ name ∈ items.filterMap SegmentItem.name?, assigned name ≠ [] ∧
      Datum.lookup entries name = some (.text (assigned name)))
    (query : Datum) (fragment : Text) :
    route.resolve (.dict entries) query fragment =
      Route.writeUrl (slashed (items.map (SegmentItem.segment assigned))) query fragment := by
  have looked : ∀ kind name, .parameter kind name ∈ items →
      Datum.lookup entries name = (Assigned.one (assigned name)).given := fun kind name found =>
    (filled name (List.mem_filterMap.2 ⟨_, found, rfl⟩)).2
  rw [← flatMap_written_one]
  exact resolve_readable (fun item found => (single item found).readable)
    (fun item found => (single item found).known _) source
    (suited_single single fun name found => (filled name found).1)
    (required_single single given) looked query fragment

/-- A route of single items finds the path that it writes, and captures its segments. -/
theorem find_single (single : ∀ item ∈ items, item.IsSingle) (given : items ≠ []) {source : Text}
    (compiled : route.compiled =
      ⟨itemsProgram route.settings.options source items, items.filterMap SegmentItem.key?⟩)
    (full : ∀ name ∈ items.filterMap SegmentItem.name?, assigned name ≠ []) {rest : Text}
    (after : AfterPath rest) :
    ∃ found, route.find (slashed (items.map (SegmentItem.segment assigned)) ++ rest) = some found ∧
      found.captures =
        itemCaptures items ((items.map (SegmentItem.segment assigned)).map ([·])) := by
  have few : items.countP SegmentItem.isModified ≤ 1 := by
    rw [List.countP_eq_zero.2]
    · exact Nat.zero_le _
    · intro item found
      simp [SegmentItem.isModified, (single item found).modifier_eq]
  have blocks : items.map (SegmentItem.written fun name => .one (assigned name)) =
      (items.map (SegmentItem.segment assigned)).map ([·]) := by
    rw [List.map_map]
    exact List.map_congr_left fun item _ => item.written_one assigned
  have written := find_written route.settings.options
    (fun item found => (single item found).readable) (fun item found => (single item found).isPath)
    (suited_single single full) (required_single single given) few source after
  rw [flatMap_written_one, blocks] at written
  rw [Route.find, compiled]
  exact written

end Single

end RoutePattern
