import RoutePattern.Proofs.QueryText
import RoutePattern.Proofs.RoundTrip.Resolved
import RoutePattern.Proofs.Segments.Singles

/-!
# Canonical paths

A path that is resolved again with the parameters that were found in it is the canonical one of all
paths with these parameters (`resolve_params_canonical`). However a path is escaped, no value that
is found in it is empty (`Percent.decode_ne_nil`), and the path that is written for the values has
the same values again.
-/
namespace RoutePattern

/-! ## Decoded texts -/

namespace Utf8

/-- An octet yields some text, or leaves the decoder inside a character. -/
theorem step_yields (state : State) (octet : Nat) :
    (step state octet).1 ≠ [] ∨ (step state octet).2 ≠ .idle := by
  have begins : (begin octet).1 ≠ [] ∨ (begin octet).2 ≠ .idle := by
    unfold begin
    split
    · exact .inl (List.cons_ne_nil _ _)
    · cases starts : start octet with
      | none => exact .inl (List.cons_ne_nil _ _)
      | some state =>
        refine .inr ?_
        rintro rfl
        unfold start at starts
        repeat' split at starts
        all_goals exact absurd starts (by simp)
  cases state with
  | idle => exact begins
  | owing bits owed low high =>
    rw [step]
    split
    · simp only
      split
      · exact .inl (List.cons_ne_nil _ _)
      · exact .inr (by simp)
    · exact .inl (List.cons_ne_nil _ _)

/-- A character that was not finished is replaced. -/
theorem flush_ne_nil {state : State} (inside : state ≠ .idle) : flush state ≠ [] := by
  cases state with
  | idle => exact absurd rfl inside
  | owing bits owed low high => exact List.cons_ne_nil _ _

end Utf8

namespace Percent

/-- Pieces, or a character that was not finished, are decoded to some text. -/
theorem decodeFrom_ne_nil {keeps : Nat → Bool} {state : Utf8.State} {row : List Piece}
    (given : state ≠ .idle ∨ row ≠ []) : decodeFrom keeps state row ≠ [] := by
  induction row generalizing state with
  | nil => exact Utf8.flush_ne_nil (given.resolve_right (· rfl))
  | cons piece row ih =>
    cases piece with
    | plain c => exact List.append_ne_nil_of_right_ne_nil _ (List.cons_ne_nil _ _)
    | escape high low =>
      rw [decodeFrom]
      simp only
      split
      · exact List.append_ne_nil_of_left_ne_nil
          (List.append_ne_nil_of_right_ne_nil _ (List.cons_ne_nil _ _)) _
      · rcases Utf8.step_yields state (Piece.octet high low) with yields | inside
        · exact List.append_ne_nil_of_left_ne_nil yields _
        · exact List.append_ne_nil_of_right_ne_nil _ (ih (.inl inside))

/-- A text that is not empty is decoded to one that is not empty. -/
theorem decode_ne_nil {text : Text} (given : text ≠ []) : decode text ≠ [] := by
  refine decodeFrom_ne_nil (.inr fun none => given ?_)
  rw [← flatMap_text_pieces text, none]
  rfl

end Percent

/-! ## Values -/

/-- Every one of some names has a text in a table, of which a property holds. -/
def TextsHold (table : Table Datum) (names : List Text) (holds : Text → Text → Prop) : Prop :=
  ∀ name ∈ names, ∃ text, table.get? name = some (.text text) ∧ holds name text

namespace Params

/-- The values that parameters have under some names, as a dictionary. -/
def valuesOf (params : Params) (names : List Text) : List (Datum × Datum) :=
  names.filterMap fun name => (params.named.get? name).map (Datum.text name, ·)

/-- A name among some names has the value that the parameters have. -/
theorem lookup_valuesOf (params : Params) {names : List Text} {name : Text} (found : name ∈ names) :
    Datum.lookup (params.valuesOf names) name = params.named.get? name := by
  have general (names : List Text) : Datum.lookup (params.valuesOf names) name =
      if name ∈ names then params.named.get? name else none := by
    induction names with
    | nil => rfl
    | cons other names ih =>
      by_cases same : other = name
      · subst same
        cases value : params.named.get? other with
        | none => simpa [valuesOf, value] using ih
        | some datum => simp [valuesOf, value, Datum.lookup, Datum.equals]
      · have apart : name ≠ other := Ne.symm same
        cases value : params.named.get? other with
        | none => simpa [valuesOf, value, apart] using ih
        | some datum => simpa [valuesOf, value, Datum.lookup, Datum.equals, same, apart] using ih
  rw [general, if_pos found]

/-- Every name has the value in the dictionary of all named values that the parameters have. -/
theorem lookup_toDatum (params : Params) (name : Text) :
    Datum.lookup (Route.entriesOf params.toDatum) name = params.named.get? name := by
  have same (entry : Text × Datum) :
      Datum.equals (.text entry.1) (.text name) = decide (entry.1 = name) := by
    simp [Datum.equals, Bool.beq_eq_decide_eq]
  rw [toDatum, Route.entriesOf, Datum.lookup, List.find?_map, Option.map_map, Table.get?]
  simp only [Function.comp_def, same]

end Params

/-- Another name with a text of its own, beside names that have theirs. -/
theorem textsHold_set {named : Table Datum} {holds : Text → Text → Prop}
    (known : ∀ name, named.contains name = true → TextsHold named [name] holds) {name value : Text}
    (text : holds name value) : ∀ other, (named.set name (.text value)).contains other = true →
      TextsHold (named.set name (.text value)) [other] holds := by
  intro other there
  refine List.forall_mem_singleton.2 ?_
  rw [Table.contains, Table.get?_set] at there
  rw [Table.get?_set]
  split at there
  · next same => exact ⟨_, if_pos same, same ▸ text⟩
  · next apart =>
    rw [if_neg apart]
    exact known other there other (List.mem_singleton_self _)

section Collecting

variable {route : Route} {holds : Text → Text → Prop}

/-- What single items capture is collected by name, each name with the first text for it. -/
theorem collect_segments {items : List SegmentItem} {segments : List Text}
    (paired : segments.length = items.length)
    (each : ∀ pair ∈ items.zip segments, ∀ name ∈ pair.1.name?, holds name (Percent.decode pair.2))
    {named : Table Datum}
    (known : ∀ name, named.contains name = true → TextsHold named [name] holds) :
    ∃ table, route.collect false ((items.filterMap SegmentItem.key?).zip
        ((itemCaptures items (segments.map ([·]))).map (·.map Percent.decode))) named [] =
          .ok (table, []) ∧
      TextsHold table (items.filterMap SegmentItem.name?) holds ∧
      ∀ name, named.contains name = true → table.get? name = named.get? name := by
  induction items generalizing segments named with
  | nil => exact ⟨named, rfl, by simp [TextsHold], fun _ _ => rfl⟩
  | cons item items ih =>
    obtain ⟨segment, segments, rfl⟩ := List.exists_cons_of_length_eq_add_one paired
    have size : segments.length = items.length := by simpa using paired
    rw [List.zip_cons_cons] at each
    obtain ⟨own, others⟩ := List.forall_mem_cons.1 each
    cases item with
    | literal text => exact ih size others known
    | parameter kind name =>
      have text : holds name (Percent.decode segment) := own name rfl
      have keys : (SegmentItem.parameter kind name :: items).filterMap SegmentItem.key? =
          some ⟨name, kind.modifier.mayBeEmpty, kind.modifier.mayRepeat, kind.regex,
            kind.converter⟩ :: items.filterMap SegmentItem.key? := rfl
      have captured : itemCaptures (.parameter kind name :: items)
          ((segment :: segments).map ([·])) =
            some segment :: itemCaptures items (segments.map ([·])) := rfl
      have names : (SegmentItem.parameter kind name :: items).filterMap SegmentItem.name? =
          name :: items.filterMap SegmentItem.name? := rfl
      rw [keys, captured, names, List.map_cons, List.zip_cons_cons]
      -- The first value of a name is kept, so a name that is taken has its text already.
      cases taken : named.contains name with
      | true =>
        obtain ⟨table, collected, given, kept⟩ := ih size others known
        refine ⟨table, ?_, ?_, kept⟩
        · simp only [Option.map_some, Route.collect, taken, if_true]
          exact collected
        · refine List.forall_mem_cons.2 ⟨?_, given⟩
          rw [kept name taken]
          exact known name taken name (List.mem_singleton_self _)
      | false =>
        obtain ⟨table, collected, given, kept⟩ := ih size others (textsHold_set known text)
        have fresh : table.get? name = some (.text (Percent.decode segment)) := by
          rw [kept name (by simp [Table.contains, Table.get?_set]), Table.get?_set, if_pos rfl]
        refine ⟨table, ?_, List.forall_mem_cons.2 ⟨⟨_, fresh, text⟩, given⟩, fun other there => ?_⟩
        · simp only [Option.map_some, Route.collect, taken, Bool.false_eq_true, if_false]
          exact collected
        · have apart : other ≠ name := by
            rintro rfl
            exact absurd (there.symm.trans taken) (by simp)
          have still : (named.set name (.text (Percent.decode segment))).get? other =
              named.get? other := by rw [Table.get?_set, if_neg apart]
          rw [kept other (by rw [Table.contains, still]; exact there), still]

/-- A path that is matched with given segments has the parameters that they are decoded to. -/
theorem params_segments {items : List SegmentItem} {segments : List Text} {source path : Text}
    (compiled : route.compiled =
      ⟨itemsProgram route.settings.options source items, items.filterMap SegmentItem.key?⟩)
    (given : path ≠ []) {found : Regex.Match} (searched : route.find path = some found)
    (captures : found.captures = itemCaptures items (segments.map ([·])))
    (paired : segments.length = items.length)
    (each : ∀ pair ∈ items.zip segments, ∀ name ∈ pair.1.name?, holds name (Percent.decode pair.2)) :
    ∃ params, route.params path false = .ok params ∧
      TextsHold params.named (items.filterMap SegmentItem.name?) holds := by
  have nothing : ∀ name, (Table.empty : Table Datum).contains name = true →
      TextsHold Table.empty [name] holds := fun _ there => absurd there Bool.false_ne_true
  obtain ⟨table, collected, texts, -⟩ := collect_segments paired each nothing
  have nonempty : path.isEmpty = false := by simpa using given
  have keys : route.compiled.keys = items.filterMap SegmentItem.key? := by rw [compiled]
  rw [← captures, ← keys] at collected
  have taken := Route.paramsOf_collected route false path found collected
  refine ⟨_, by simp only [Route.params, nonempty, searched, taken]; rfl, fun name member => ?_⟩
  obtain ⟨text, value, held⟩ := texts name member
  exact ⟨text, Table.get?_foldl_setNew _ Datum.text value, held⟩

end Collecting

/-! ## Routes -/

section Routes

variable {items : List SegmentItem} {route : Route}

/-- Whatever path has parameters, none of its named values is empty. -/
theorem texts_of_params (single : ∀ item ∈ items, item.IsSingle) {source path : Text}
    (compiled : route.compiled =
      ⟨itemsProgram route.settings.options source items, items.filterMap SegmentItem.key?⟩)
    (given : path ≠ []) {params : Params} (taken : route.params path false = .ok params) :
    TextsHold params.named (items.filterMap SegmentItem.name?) fun _ text => text ≠ [] := by
  have nonempty : path.isEmpty = false := by simpa using given
  have searched : ∃ found, route.find path = some found := by
    cases search : route.find path with
    | some found => exact ⟨found, rfl⟩
    | none => simp [Route.params, nonempty, search] at taken
  obtain ⟨found, search⟩ := searched
  have matched : (itemsProgram route.settings.options source items).find (normalize path) =
      some found := by
    rw [Route.find, compiled] at search
    exact search
  obtain ⟨segments, paired, full, captures⟩ :=
    captures_of_find (fun item member => (single item member).readable)
      (fun item member => (single item member).modifier_eq) matched
  obtain ⟨others, again, texts⟩ : ∃ params, route.params path false = .ok params ∧
      TextsHold params.named (items.filterMap SegmentItem.name?) fun _ text => text ≠ [] := by
    refine params_segments compiled given search captures paired fun pair member _ _ => ?_
    exact Percent.decode_ne_nil fun empty => full (empty ▸ (List.of_mem_zip member).2)
  obtain rfl : params = others := Except.ok.inj (taken.symm.trans again)
  exact texts

/-- The path that a route of single items writes has the values that it was written for. -/
theorem params_canonical (single : ∀ item ∈ items, item.IsSingle) (given : items ≠ [])
    {source : Text} (compiled : route.compiled =
      ⟨itemsProgram route.settings.options source items, items.filterMap SegmentItem.key?⟩)
    {assigned : Text → Text}
    (full : ∀ name ∈ items.filterMap SegmentItem.name?, assigned name ≠ []) :
    ∃ params, route.params (slashed (items.map (SegmentItem.segment assigned))) false =
        .ok params ∧
      TextsHold params.named (items.filterMap SegmentItem.name?) fun name text =>
        text ≠ [] ∧ text = assigned name := by
  have ending : AfterPath [] := fun c found => absurd found (by simp)
  obtain ⟨found, searched, captures⟩ := find_single single given compiled full ending
  rw [List.append_nil] at searched
  have each : ∀ pair ∈ items.zip (items.map (SegmentItem.segment assigned)),
      ∀ name ∈ pair.1.name?, Percent.decode pair.2 ≠ [] ∧
        Percent.decode pair.2 = assigned name := by
    have pairs : items.zip (items.map (SegmentItem.segment assigned)) =
        items.map fun item => (item, item.segment assigned) := by
      conv_lhs => rw [← List.map_id items, List.map_map, List.zip_map']
      rfl
    rw [pairs]
    intro pair member name named
    obtain ⟨item, found, rfl⟩ := List.mem_map.1 member
    cases item with
    | literal text => exact absurd named (by simp [SegmentItem.name?])
    | parameter kind other =>
      obtain rfl : other = name := Option.some.inj named
      have decoded := Percent.decode_encode (assigned other)
      refine ⟨fun none => ?_, decoded⟩
      exact full other (List.mem_filterMap.2 ⟨_, found, rfl⟩) (decoded.symm.trans none)
  have nonempty : slashed (items.map (SegmentItem.segment assigned)) ≠ [] := by
    obtain ⟨item, others, rfl⟩ := List.exists_cons_of_ne_nil given
    exact List.cons_ne_nil _ _
  exact params_segments compiled nonempty searched captures (List.length_map _) each

end Routes

/-- A route of literals and parameters after colons turns every path that it has parameters of into
a canonical one: the path that is resolved with the values of its own names has the same values,
and resolving all that is found in it changes nothing. This holds under all options, however the
path is escaped, and whatever comes after it. -/
theorem resolve_params_canonical {items : List SegmentItem} (settings : Settings) (name : Text)
    (given : items ≠ []) (single : ∀ item ∈ items, item.IsSingle) :
    ∃ route, Route.make (.pattern (items.flatMap SegmentItem.text)) settings name = .ok route ∧
      ∀ path params, path ≠ [] → route.params path false = .ok params →
        ∃ canonical again,
          route.resolve (.dict (params.valuesOf (items.filterMap SegmentItem.name?))) .null [] =
            .ok canonical ∧
          route.params canonical false = .ok again ∧
          (∀ name ∈ items.filterMap SegmentItem.name?, ∃ value,
            params.named.get? name = some value ∧ again.named.get? name = some value) ∧
          route.resolve again.toDatum .null [] = .ok canonical := by
  have known : ∀ item ∈ items, item.Known (Converters.extended settings.options.converters) :=
    fun item found => (single item found).known _
  obtain ⟨route, source, made, pattern, rfl, compiled⟩ :=
    make_readable (fun item found => (single item found).readable) known name
  refine ⟨route, made, fun path params nonempty taken => ?_⟩
  have texts := texts_of_params single compiled nonempty taken
  choose! assigned value full using texts
  have values : ∀ name ∈ items.filterMap SegmentItem.name?, assigned name ≠ [] ∧
      params.named.get? name = some (.text (assigned name)) :=
    fun name member => ⟨full name member, value name member⟩
  -- Both paths are written from the same texts, once from the given path's values and once from
  -- those of the canonical one.
  have written {entries : List (Datum × Datum)} {named : Table Datum}
      (looked : ∀ name ∈ items.filterMap SegmentItem.name?,
        Datum.lookup entries name = named.get? name)
      (held : ∀ name ∈ items.filterMap SegmentItem.name?,
        named.get? name = some (.text (assigned name))) :
      route.resolve (.dict entries) .null [] =
        .ok (slashed (items.map (SegmentItem.segment assigned))) := by
    have filled : ∀ name ∈ items.filterMap SegmentItem.name?, assigned name ≠ [] ∧
        Datum.lookup entries name = some (.text (assigned name)) := fun name member =>
      ⟨(values name member).1, (looked name member).trans (held name member)⟩
    rw [resolve_single single given pattern filled, Route.writeUrl]
    simp [Datum.isTrue, pure, Except.pure, bind, Except.bind]
  obtain ⟨again, parsed, same⟩ :=
    params_canonical single given compiled fun name member => (values name member).1
  have held : ∀ name ∈ items.filterMap SegmentItem.name?,
      again.named.get? name = some (.text (assigned name)) := by
    intro name member
    obtain ⟨text, value, -, rfl⟩ := same name member
    exact value
  exact ⟨_, again,
    written (fun name => params.lookup_valuesOf) fun name member => (values name member).2,
    parsed, fun name member => ⟨_, (values name member).2, held name member⟩,
    written (fun name _ => again.lookup_toDatum name) held⟩

/-- The items of a pattern with a literal in front of a parameter. -/
def fileItems : List SegmentItem :=
  [.literal "file".toList, .parameter (.colon .once) "name".toList]

/-- A path with escapes that are not needed or not complete, and with a query, becomes the one path
for its value. -/
theorem resolve_params_canonical_file : ∃ route canonical again,
    Route.make (.pattern "/file/:name".toList) Settings.standard [] = .ok route ∧
      ∃ params, route.params "/FILE/%61%/?name=b".toList false = .ok params ∧
        route.resolve (.dict (params.valuesOf ["name".toList])) .null [] = .ok canonical ∧
        route.params canonical false = .ok again ∧
        again.named.get? "name".toList = params.named.get? "name".toList ∧
        route.resolve again.toDatum .null [] = .ok canonical := by
  have single : ∀ item ∈ fileItems, item.IsSingle := by
    simp only [fileItems, List.forall_mem_cons]
    exact ⟨⟨by decide, Text.forall_mem_iff_all.2 (by decide)⟩,
      ⟨rfl, by decide, Text.forall_mem_iff_all.2 (by decide)⟩, by simp⟩
  obtain ⟨route, made, canonical⟩ :=
    resolve_params_canonical Settings.standard [] (List.cons_ne_nil _ _) single
  have tested : (Route.make (.pattern "/file/:name".toList) Settings.standard []).toOption.map
      (·.test "/FILE/%61%/?name=b".toList) = some true := by
    decide +kernel
  have matched : route.test "/FILE/%61%/?name=b".toList = true := by
    rw [show Route.make (.pattern "/file/:name".toList) Settings.standard [] = .ok route from made]
      at tested
    exact Option.some.inj tested
  obtain ⟨params, taken, -⟩ := route.params_plain_ok (by decide) matched
  obtain ⟨path, again, first, parsed, same, last⟩ :=
    canonical "/FILE/%61%/?name=b".toList params (by decide) taken
  obtain ⟨value, one, two⟩ := same "name".toList (by decide)
  exact ⟨route, path, again, made, params, taken, first, parsed, two.trans one.symm, last⟩

end RoutePattern
