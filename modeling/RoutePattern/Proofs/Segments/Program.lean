import Mathlib.Algebra.GroupWithZero.Nat
import RoutePattern.Proofs.Reading.Source
import RoutePattern.Proofs.Segments.Item

/-!
# The regular expression of a pattern of whole segments

The items of a pattern are compiled one after the other: a literal into its characters and a
parameter into one group, around which its modifier puts repetitions. What the options ask for at
the end of the route comes last (`compilePattern_items`).
-/
namespace RoutePattern

open Regex Regex.Reader

namespace ParameterKind

/-- The regular expression of one segment. -/
def segment (kind : ParameterKind) : Expr := if kind.isInteger then digitsExpr else segmentExpr

/-- One more segment after a slash, any number of times. -/
def moreSegments (kind : ParameterKind) : Expr :=
  .loop 0 none .greedy (.sequence [.char '/'.toNat, kind.segment])

/-- What the group of a parameter holds. -/
def captured (kind : ParameterKind) : List Expr :=
  if kind.modifier.mayRepeat then [kind.segment, kind.moreSegments] else [kind.segment]

/-- A parameter whose group has a number, without what makes it optional. -/
def taken (kind : ParameterKind) (index : Nat) : List Expr :=
  [.char '/'.toNat, .group index (.sequence kind.captured)]

/-- The parts that a parameter is read as. -/
def parts (kind : ParameterKind) (index : Nat) : List Expr :=
  if kind.modifier.mayBeEmpty then [.loop 0 (some 1) .greedy (.sequence (kind.taken index))]
  else kind.taken index

end ParameterKind

namespace SegmentItem

/-- The parts that an item is read as; `index` is the number of its group, if it has one. -/
def parts (index : Nat) : SegmentItem → List Expr
  | literal text => ('/' :: text).map fun c => .char c.toNat
  | parameter kind _ => kind.parts index

/-- The count of the groups of an item. -/
def groups : SegmentItem → Nat
  | literal _ => 0
  | parameter _ _ => 1

/-- An item as a regular expression. -/
def source : SegmentItem → Text
  | literal text => escapeRegex ('/' :: text)
  | parameter kind name => (kind.placeholder name).source

/-- The key of a parameter. -/
def key? : SegmentItem → Option (Option ParamKey)
  | literal _ => none
  | parameter kind name => some (kind.placeholder name).key

end SegmentItem

/-- The parts that a row of items is read as, after a count of groups. -/
def itemParts : (before : Nat) → List SegmentItem → List Expr
  | _, [] => []
  | before, item :: items => item.parts (before + 1) ++ itemParts (before + item.groups) items

/-- The count of the groups of a row of items. -/
def itemGroups (items : List SegmentItem) : Nat := (items.map SegmentItem.groups).sum

/-- What the options ask for at the end of a route, as a regular expression. -/
def tailSource (options : Options) : Text :=
  (if options.strict then [] else optionalSlash) ++ if options.whole then ['$'] else segmentEnd

/-- The parts that the end of a route is read as. -/
def tailParts (options : Options) : List Expr :=
  (if options.strict then [] else [optionalSlashExpr]) ++
    if options.whole then [.anchor .lineEnd] else [segmentEndExpr]

/-! ## Sources -/

/-- Two texts as one regular expression. -/
theorem escapeRegex_append (one two : Text) :
    escapeRegex (one ++ two) = escapeRegex one ++ escapeRegex two :=
  List.flatMap_append

/-- A text as a regular expression ends as the text does. -/
theorem getLast?_escapeRegex (text : Text) : (escapeRegex text).getLast? = text.getLast? := by
  rcases List.eq_nil_or_concat text with rfl | ⟨before, c, rfl⟩
  · rfl
  · have one : (escapeRegex [c]).getLast? = some c := by
      rw [escapeRegex, List.flatMap_singleton]
      split
      · rfl
      · rfl
    rw [List.concat_eq_append, escapeRegex_append, List.getLast?_append, one]
    simp

/-- Literal text in front of tokens comes first in their regular expression. -/
theorem source_literalBefore (text : Text) (tokens : List PatternToken) :
    (literalBefore text tokens).flatMap PatternToken.source =
      escapeRegex text ++ tokens.flatMap PatternToken.source := by
  cases text with
  | nil => rfl
  | cons c text => rfl

/-- Literal text in front of tokens adds no key. -/
theorem keys_literalBefore (text : Text) (tokens : List PatternToken) :
    (literalBefore text tokens).filterMap PatternToken.key? =
      tokens.filterMap PatternToken.key? := by
  cases text with
  | nil => rfl
  | cons c text => rfl

/-- The regular expression of tokens is that of their items, after the literal text before. -/
theorem source_itemTokens (before : Text) (items : List SegmentItem) :
    (itemTokens before items).flatMap PatternToken.source =
      escapeRegex before ++ items.flatMap SegmentItem.source := by
  induction items generalizing before with
  | nil => simp [itemTokens, source_literalBefore]
  | cons item items ih =>
    cases item with
    | literal text =>
      rw [itemTokens, ih, escapeRegex_append, List.append_assoc]
      rfl
    | parameter kind name =>
      rw [itemTokens, source_literalBefore, List.flatMap_cons, ih]
      rfl

/-- The keys of tokens are those of their items. -/
theorem keys_itemTokens (before : Text) (items : List SegmentItem) :
    (itemTokens before items).filterMap PatternToken.key? =
      items.filterMap SegmentItem.key? := by
  induction items generalizing before with
  | nil => simp [itemTokens, keys_literalBefore]
  | cons item items ih =>
    cases item with
    | literal text =>
      rw [itemTokens, ih]
      rfl
    | parameter kind name =>
      rw [itemTokens, keys_literalBefore]
      simp [PatternToken.key?, SegmentItem.key?, ih]

/-- What the group of a parameter holds, as a regular expression. -/
def ParameterKind.capturedText (kind : ParameterKind) : Text :=
  if kind.modifier.mayRepeat then kind.regex ++ (['(', '?', ':'] ++ '/' :: kind.regex ++ [')', '*'])
  else kind.regex

/-- A parameter is a slash and a group, which together may be optional. -/
theorem source_placeholder (kind : ParameterKind) (name : Text) :
    (kind.placeholder name).source =
      if kind.modifier.mayBeEmpty then
        ['(', '?', ':'] ++ '/' :: ('(' :: kind.capturedText ++ [')']) ++ [')', '?']
      else '/' :: ('(' :: kind.capturedText ++ [')']) := by
  have slash : leadSource (some '/') = ['/'] := by decide
  have inside : (kind.placeholder name).captureSource = kind.capturedText := by
    simp [Placeholder.captureSource, ParameterKind.placeholder, keyedPlaceholder, slash,
      ParameterKind.capturedText]
  rw [Placeholder.source, inside]
  simp only [ParameterKind.placeholder, keyedPlaceholder, slash]
  cases kind.modifier.mayBeEmpty with
  | false => rfl
  | true => rfl

/-- No item ends in a slash. -/
theorem SegmentItem.getLast?_source {item : SegmentItem} (readable : item.Readable) :
    ∃ c, item.source.getLast? = some c ∧ c ≠ '/' := by
  cases item with
  | literal text =>
    obtain ⟨given, plain⟩ := readable
    refine ⟨text.getLast given, ?_, ?_⟩
    · rw [source, getLast?_escapeRegex, List.getLast?_cons, List.getLast?_eq_some_getLast given]
      rfl
    · intro slash
      exact plain _ (List.getLast_mem given) (by rw [slash]; decide)
  | parameter kind name =>
    rw [source, source_placeholder]
    cases kind.modifier.mayBeEmpty with
    | false =>
      refine ⟨')', ?_, by decide⟩
      rw [if_neg (by decide), ← List.cons_append, List.getLast?_concat]
    | true =>
      refine ⟨'?', ?_, by decide⟩
      rw [if_pos rfl, List.getLast?_append]
      rfl

/-- A row of items does not end in a slash. -/
theorem getLast?_items {items : List SegmentItem} (readable : ∀ item ∈ items, item.Readable) :
    ((items.flatMap SegmentItem.source).getLast? == some '/') = false := by
  induction items with
  | nil => rfl
  | cons item items ih =>
    have later := ih fun item found => readable item (List.mem_cons_of_mem _ found)
    obtain ⟨c, last, other⟩ := SegmentItem.getLast?_source (readable item (List.mem_cons_self ..))
    rw [List.flatMap_cons, List.getLast?_append, last]
    cases ending : (items.flatMap SegmentItem.source).getLast? with
    | none => simpa using other
    | some d => simpa [ending] using later

/-- The source of a route is that of its items and of its end. -/
theorem routeSource_items {items : List SegmentItem} (options : Options)
    (readable : ∀ item ∈ items, item.Readable) :
    routeSource options (itemTokens [] items) =
      items.flatMap SegmentItem.source ++ tailSource options := by
  have ending := getLast?_items readable
  have source : (itemTokens [] items).flatMap PatternToken.source =
      items.flatMap SegmentItem.source := source_itemTokens [] items
  simp only [routeSource, source, ending, tailSource]
  cases options.strict <;> cases options.whole <;> simp

/-! ## Reading -/

/-- The regular expression of one segment is read as such. -/
theorem reads_segment (kind : ParameterKind) : Reads kind.regex 0 fun _ => [kind.segment] := by
  cases kind with
  | colon modifier => exact Reads.segment
  | braces modifier => exact Reads.segment
  | integer => exact Reads.digits

/-- A slash is read as itself. -/
theorem reads_slash : Reads ['/'] 0 fun _ => [.char '/'.toNat] := Reads.literal ['/']

/-- What the group of a parameter holds is read as such. -/
theorem reads_captured (kind : ParameterKind) :
    Reads kind.capturedText 0 fun _ => kind.captured := by
  have one := reads_segment kind
  have unsigned : StartsUnsigned kind.regex := by cases kind <;> simp [ParameterKind.regex, ParameterKind.isInteger, StartsUnsigned]
  have more := (reads_slash.append one unsigned).repeated (.inr ⟨rfl, rfl⟩)
  have several := one.append more (by simp [StartsUnsigned])
  rw [ParameterKind.capturedText]
  unfold ParameterKind.captured
  cases kind.modifier.mayRepeat with
  | false => exact one
  | true => exact several

/-- A parameter is read as its parts. -/
theorem reads_parameter (kind : ParameterKind) (name : Text) :
    Reads (kind.placeholder name).source 1 fun before => kind.parts (before + 1) := by
  have bare : kind.capturedText.head? ≠ some '?' := by
    rcases kind with (_ | _ | _ | _) | (_ | _ | _ | _) | _ <;> decide
  have taken := reads_slash.append ((reads_captured kind).group bare) (by simp [StartsUnsigned])
  have optional := taken.repeated (.inl ⟨rfl, rfl⟩)
  rw [source_placeholder]
  unfold ParameterKind.parts
  cases kind.modifier.mayBeEmpty with
  | false => exact taken
  | true => exact optional

/-- An item starts with no sign that changes the appetite of a repetition. -/
theorem SegmentItem.startsUnsigned_source (item : SegmentItem) (rest : Text) :
    StartsUnsigned (item.source ++ rest) := by
  cases item with
  | literal text => simp [source, escapeRegex, StartsUnsigned, regexSpecials]
  | parameter kind name =>
    rw [source, source_placeholder]
    cases kind.modifier.mayBeEmpty <;> simp [StartsUnsigned]

/-- A row of items is read as its parts, in front of the parts of a text after it. -/
theorem reads_items (items : List SegmentItem) {rest : Text} {parts : List Expr}
    (ending : Reads rest 0 fun _ => parts) (unsigned : StartsUnsigned rest) :
    Reads (items.flatMap SegmentItem.source ++ rest) (itemGroups items) fun before =>
      itemParts before items ++ parts := by
  induction items with
  | nil => exact ending
  | cons item items ih =>
    have free : StartsUnsigned (items.flatMap SegmentItem.source ++ rest) := by
      cases items with
      | nil => exact unsigned
      | cons item items =>
        rw [List.flatMap_cons, List.append_assoc]
        exact item.startsUnsigned_source _
    have first : Reads item.source item.groups fun before => item.parts (before + 1) := by
      cases item with
      | literal text => exact Reads.literal ('/' :: text)
      | parameter kind name => exact reads_parameter kind name
    have all := first.append ih free
    rw [List.flatMap_cons, List.append_assoc]
    simpa only [itemParts, itemGroups, List.map_cons, List.sum_cons, List.append_assoc] using all

/-- The end of a route is read as its parts. -/
theorem reads_tail (options : Options) :
    Reads (tailSource options) 0 fun _ => tailParts options := by
  have last : Reads (if options.whole then ['$'] else segmentEnd) 0 fun _ =>
      if options.whole then [.anchor .lineEnd] else [segmentEndExpr] := by
    cases options.whole with
    | false => exact Reads.segmentEnd
    | true => exact Reads.wholeEnd
  have unsigned : StartsUnsigned (if options.whole then ['$'] else segmentEnd) := by
    cases options.whole <;> decide
  unfold tailSource tailParts
  cases options.strict with
  | false => exact Reads.optionalSlash.append last unsigned
  | true => exact last

/-- The end of a route starts with no sign that changes the appetite of a repetition. -/
theorem startsUnsigned_tail (options : Options) : StartsUnsigned (tailSource options) := by
  unfold tailSource
  cases options.strict <;> cases options.whole <;> decide

/-! ## Compilation -/

/-- Look-behinds in a sequence are fixed where they are in every part. -/
theorem behindFixed_sequence (parts : List Expr) :
    (Expr.sequence parts).behindFixed = parts.all Expr.behindFixed := by
  induction parts with
  | nil => rfl
  | cons part parts ih =>
    rw [List.all_cons, ← ih]
    rfl

/-- No item has a look-behind. -/
theorem behindFixed_itemParts (before : Nat) (items : List SegmentItem) :
    (itemParts before items).all Expr.behindFixed = true := by
  have segment (kind : ParameterKind) : kind.segment.behindFixed = true := by
    cases kind <;> rfl
  induction items generalizing before with
  | nil => rfl
  | cons item items ih =>
    rw [itemParts, List.all_append, ih, Bool.and_true]
    cases item with
    | literal text => simp [SegmentItem.parts, Expr.behindFixed]
    | parameter kind name =>
      simp only [SegmentItem.parts, ParameterKind.parts, ParameterKind.taken,
        ParameterKind.captured, ParameterKind.moreSegments]
      split <;> split <;>
        simp [Expr.behindFixed, behindFixed_sequence, segment]

/-- The end of a route has no look-behind. -/
theorem behindFixed_tailParts (options : Options) :
    (tailParts options).all Expr.behindFixed = true := by
  unfold tailParts
  cases options.strict <;> cases options.whole <;> rfl

/-- The regular expression of a pattern of whole segments. -/
def itemsExpr (options : Options) (items : List SegmentItem) : Expr :=
  .sequence (.anchor .lineStart :: (itemParts 0 items ++ tailParts options))

/-- There is one key for each group. -/
theorem length_keys (items : List SegmentItem) :
    (items.filterMap SegmentItem.key?).length = itemGroups items := by
  induction items with
  | nil => rfl
  | cons item items ih =>
    cases item with
    | literal text =>
      rw [List.filterMap_cons_none rfl, ih]
      simp [itemGroups, SegmentItem.groups]
    | parameter kind name =>
      have keyed : (SegmentItem.parameter kind name).key? = some (kind.placeholder name).key := rfl
      rw [List.filterMap_cons_some keyed, List.length_cons, ih]
      simp [itemGroups, SegmentItem.groups, Nat.add_comm 1]

/-- A pattern of items that are read as a whole compiles. -/
theorem compilePattern_readable {items : List SegmentItem} {options : Options}
    (readable : ∀ item ∈ items, item.Readable)
    (known : ∀ item ∈ items, item.Known (Converters.extended options.converters)) :
    ∃ source, compilePattern options (items.flatMap SegmentItem.text) =
      .ok ⟨⟨source, options.flags, itemsExpr options items, itemGroups items, []⟩,
        items.filterMap SegmentItem.key?⟩ := by
  have tokens := tokenize_items readable known
  have tail := startsUnsigned_tail options
  have unsigned : StartsUnsigned (items.flatMap SegmentItem.source ++ tailSource options) := by
    cases items with
    | nil => exact tail
    | cons item items =>
      rw [List.flatMap_cons, List.append_assoc]
      exact item.startsUnsigned_source _
  have reads := Reads.start.append (reads_items items (reads_tail options) tail) unsigned
  have fixed : (itemsExpr options items).behindFixed = true := by
    rw [itemsExpr, behindFixed_sequence, List.all_cons, List.all_append, behindFixed_itemParts,
      behindFixed_tailParts]
    rfl
  have compiled := compile_eq options.flags reads fixed
  refine ⟨'^' :: (items.flatMap SegmentItem.source ++ tailSource options), ?_⟩
  have read : Program.compile ('^' :: (items.flatMap SegmentItem.source ++ tailSource options))
      options.flags = .ok ⟨'^' :: (items.flatMap SegmentItem.source ++ tailSource options),
        options.flags, itemsExpr options items, itemGroups items, []⟩ := by
    simp only [Nat.zero_add] at compiled
    exact compiled
  simp only [compilePattern, tokens, routeSource_items options readable, keys_itemTokens,
    Except.mapError, bind, Except.bind, read, length_keys, if_true]
  rfl

/-- A pattern of whole segments compiles. -/
theorem compilePattern_items {items : List SegmentItem} {options : Options}
    (wellFormed : ∀ item ∈ items, item.WellFormed)
    (known : ∀ item ∈ items, item.Known (Converters.extended options.converters)) :
    ∃ source, compilePattern options (items.flatMap SegmentItem.text) =
      .ok ⟨⟨source, options.flags, itemsExpr options items, itemGroups items, []⟩,
        items.filterMap SegmentItem.key?⟩ :=
  compilePattern_readable (fun item found => (wellFormed item found).readable) known

end RoutePattern
