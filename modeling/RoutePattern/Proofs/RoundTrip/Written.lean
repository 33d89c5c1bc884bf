import RoutePattern.Proofs.Component
import RoutePattern.Proofs.Numeral
import RoutePattern.Proofs.Segments.Blocks
import RoutePattern.Route

/-!
# Paths written for values

A route of whole segments writes the values of its parameters as blocks of segments, one for each
item, unless a parameter that needs a value has none (`writeTokens_listed`). Where the values suit
the parameters, no segment is empty or holds a delimiter, and the blocks fit the items
(`fits_written`).
-/
namespace RoutePattern

open Regex

/-- A value that a caller gives for a parameter. -/
inductive Assigned where
  | absent
  | one (value : Text)
  /-- A list of texts, one for each segment. -/
  | several (values : List Text)
  | number (value : Nat)
  deriving Repr, DecidableEq

namespace Assigned

/-- The value as it is given to a route. -/
def given : Assigned → Option Datum
  | absent => none
  | one value => some (.text value)
  | several values => some (.list (values.map .text))
  | number value => some (.int value)

/-- The value as it comes back from a path: a list comes back with slashes between its texts. -/
def back : Assigned → Option Datum
  | absent => none
  | one value => some (.text value)
  | several values => some (.text (Text.join ['/'] values))
  | number value => some (.int value)

/-- The texts of a value, one for each segment. -/
def texts : Assigned → List Text
  | absent => []
  | one value => [value]
  | several values => values
  | number value => [Text.ofNat value]

/-- A value that can be written: a text that is not empty, a list of texts, or a number that is not
too long. -/
def IsWritable : Assigned → Prop
  | absent => True
  | one value => value ≠ []
  | several _ => True
  | number value => value < 10 ^ Decimal.digitLimit

/-- The segments that a value is written as. A list without texts is still written with a slash. -/
def block : Assigned → List Text
  | several [] => [[]]
  | value => value.texts.map Percent.encode

/-- Unless it is the empty list, a value is written as its texts. -/
theorem block_eq {value : Assigned} (given : value ≠ .several []) :
    value.block = value.texts.map Percent.encode := by
  unfold block
  split
  · exact absurd rfl given
  · rfl

/-- A value suits a parameter: a number that is not too long for an integer, and texts that are not
empty for any other parameter, as many as its modifier allows. -/
def Suits (kind : ParameterKind) : Assigned → Prop
  | absent => kind.modifier.mayBeEmpty = true
  | one value => kind.isInteger = false ∧ value ≠ []
  | several values =>
    kind.modifier.mayRepeat = true ∧ values ≠ [] ∧ ∀ value ∈ values, value ≠ []
  | number value => kind.isInteger = true ∧ value < 10 ^ Decimal.digitLimit

/-- A value that suits an integer is a number. -/
theorem Suits.number_of_isInteger {kind : ParameterKind} {value : Assigned}
    (suits : value.Suits kind) (integer : kind.isInteger = true) :
    ∃ n, value = .number n ∧ n < 10 ^ Decimal.digitLimit := by
  obtain rfl : kind = .integer := by
    cases kind with
    | colon modifier => exact absurd integer Bool.false_ne_true
    | braces modifier => exact absurd integer Bool.false_ne_true
    | integer => rfl
  cases value with
  | absent => exact absurd suits Bool.false_ne_true
  | one text => exact absurd suits.1 (by decide)
  | several texts => exact absurd suits.1 Bool.false_ne_true
  | number n => exact ⟨n, rfl, suits.2⟩

/-- The modifier of a parameter allows the texts of a value that suits it. -/
theorem Suits.allows {kind : ParameterKind} {value : Assigned} (suits : value.Suits kind) :
    kind.modifier.Allows value.texts.length := by
  rw [Modifier.allows_iff]
  cases value with
  | absent => exact ⟨fun _ => suits, fun more => absurd more (by simp [texts])⟩
  | one text => simp [texts]
  | several values =>
    refine ⟨fun none => ?_, fun _ => suits.1⟩
    exact absurd (List.length_eq_zero_iff.1 none) suits.2.1
  | number n => simp [texts]

/-- No text of a value that suits a parameter is empty. -/
theorem Suits.ne_nil {kind : ParameterKind} {value : Assigned} (suits : value.Suits kind) :
    ∀ text ∈ value.texts, text ≠ [] := by
  intro text found
  cases value with
  | absent => exact absurd found List.not_mem_nil
  | one value =>
    rw [List.mem_singleton.1 found]
    exact suits.2
  | several values => exact suits.2.2 text found
  | number n =>
    rw [List.mem_singleton.1 found]
    exact Decimal.ofNat_ne_nil n

/-- A value that suits a parameter can be written. -/
theorem Suits.isWritable {kind : ParameterKind} {value : Assigned} (suits : value.Suits kind) :
    value.IsWritable := by
  cases value with
  | absent => trivial
  | one text => exact suits.2
  | several texts => trivial
  | number n => exact suits.2

end Assigned

namespace SegmentItem

/-- The name of the parameter that an item is. -/
def name? : SegmentItem → Option Text
  | literal _ => none
  | parameter _ name => some name

/-- A literal holds no delimiter of a URL. -/
def IsPath : SegmentItem → Prop
  | literal text => '?' ∉ text ∧ '#' ∉ text
  | parameter _ _ => True

instance : DecidablePred IsPath
  | literal text => inferInstanceAs (Decidable ('?' ∉ text ∧ '#' ∉ text))
  | parameter _ _ => .isTrue trivial

/-- The value for an item suits it. -/
def Suited (assigned : Text → Assigned) : SegmentItem → Prop
  | literal _ => True
  | parameter kind name => (assigned name).Suits kind

/-- The segments that an item is written as. -/
def written (assigned : Text → Assigned) : SegmentItem → List Text
  | literal text => [text]
  | parameter _ name => (assigned name).texts.map Percent.encode

/-- The segments that an item is written as, if its value may be the empty list. -/
def listed (assigned : Text → Assigned) : SegmentItem → List Text
  | literal text => [text]
  | parameter _ name => (assigned name).block

/-- The name of a parameter that needs a value and has none. -/
def missing? (assigned : Text → Assigned) : SegmentItem → Option Text
  | literal _ => none
  | parameter kind name =>
    if kind.modifier.mayBeEmpty = false ∧ assigned name = .absent then some name else none

/-- The value for an item can be written. -/
def IsWritable (assigned : Text → Assigned) : SegmentItem → Prop
  | literal _ => True
  | parameter _ name => (assigned name).IsWritable

variable {item : SegmentItem} {assigned : Text → Assigned}

/-- A value that suits an item can be written. -/
theorem Suited.isWritable (suited : item.Suited assigned) : item.IsWritable assigned := by
  cases item with
  | literal text => trivial
  | parameter kind name => exact Assigned.Suits.isWritable suited

/-- A parameter that a value suits does not miss one. -/
theorem Suited.missing?_eq (suited : item.Suited assigned) : item.missing? assigned = none := by
  cases item with
  | literal text => rfl
  | parameter kind name =>
    have suits : (assigned name).Suits kind := suited
    rw [missing?, if_neg]
    rintro ⟨needed, absent⟩
    rw [absent] at suits
    exact Bool.false_ne_true (needed.symm.trans suits)

/-- A value that suits an item is not the empty list. -/
theorem Suited.listed_eq (suited : item.Suited assigned) :
    item.listed assigned = item.written assigned := by
  cases item with
  | literal text => rfl
  | parameter kind name =>
    have suits : (assigned name).Suits kind := suited
    refine Assigned.block_eq fun empty => ?_
    rw [empty] at suits
    exact suits.2.1 rfl

end SegmentItem

/-! ## Writing -/

section Writing

variable {assigned : Text → Assigned} {entries : List (Datum × Datum)}

/-- No parameter keeps the slashes of its values. -/
theorem ParameterKind.converter_ne_path (kind : ParameterKind) :
    kind.converter ≠ Route.pathConverter := by
  rw [converter]
  cases kind.isInteger <;> decide

/-- A text is a segment in its encoded form. -/
theorem encodeSegment_text (kind : ParameterKind) (text : Text) :
    Route.encodeSegment kind.converter (.text text) = .ok (Percent.encode text) := by
  simp only [Route.encodeSegment, if_neg kind.converter_ne_path]
  rfl

/-- A number is a segment in its digits. -/
theorem encodeSegment_number (kind : ParameterKind) {n : Nat} (short : n < 10 ^ Decimal.digitLimit) :
    Route.encodeSegment kind.converter (.int n) = .ok (Percent.encode (Text.ofNat n)) := by
  have written : Datum.toText (.int n) = .ok (Text.ofNat n) := by
    show Datum.orTooLong (Datum.intText n) = _
    rw [Datum.intText_ofNat short]
    rfl
  simp only [Route.encodeSegment, if_neg kind.converter_ne_path, written]
  rfl

/-- Texts are segments in their encoded forms. -/
theorem mapM_encodeSegment (kind : ParameterKind) (texts : List Text) :
    (texts.map Datum.text).mapM (Route.encodeSegment kind.converter) =
      .ok (texts.map Percent.encode) := by
  induction texts with
  | nil => rfl
  | cons text texts ih =>
    rw [List.map_cons, List.mapM_cons, encodeSegment_text, ih]
    rfl

/-- Segments after the slash of a parameter. -/
theorem writeSegments_slash {segments : List Text} (given : segments ≠ []) :
    Route.writeSegments (some '/') segments = slashed segments := by
  rw [slashed_eq_cons given]
  rfl

/-- A parameter is written as the segments of its value, unless it needs one and has none. -/
theorem writePlaceholder_listed (route : Text) (kind : ParameterKind) {name : Text}
    (looked : Datum.lookup entries name = (assigned name).given)
    (writable : (assigned name).IsWritable) :
    Route.writePlaceholder route entries (kind.placeholder name) =
      ((SegmentItem.parameter kind name).missing? assigned).elim
        (.ok (slashed ((SegmentItem.parameter kind name).listed assigned)))
        fun needed => .error (.missingValue needed route) := by
  simp only [Route.writePlaceholder, ParameterKind.placeholder, keyedPlaceholder, looked,
    SegmentItem.missing?, SegmentItem.listed]
  -- By the kind of value: none at all, one text, several, or a number.
  cases value : assigned name with
  | absent =>
    have nothing : slashed Assigned.absent.block = [] := rfl
    simp only [Assigned.given, Option.getD_none, if_true, and_true, nothing]
    by_cases empty : kind.modifier.mayBeEmpty = true
    · simp [empty]
    · simp [empty]
  | one text =>
    rw [value] at writable
    have given : Datum.isEmptyText (.text text) = false := by
      simpa [Datum.isEmptyText] using (show text ≠ [] from writable)
    have encoded := mapM_encodeSegment kind [text]
    simp only [List.map_cons, List.map_nil] at encoded
    simp only [Assigned.given, Option.getD_some, given, Bool.false_eq_true, if_false,
      Route.segments, encoded, reduceCtorEq, and_false]
    exact congrArg Except.ok (writeSegments_slash (by simp))
  | several texts =>
    simp only [Assigned.given, Option.getD_some, Datum.isEmptyText, Bool.false_eq_true, if_false,
      Route.segments, mapM_encodeSegment kind texts, reduceCtorEq, and_false]
    cases texts with
    | nil => rfl
    | cons text texts => exact congrArg Except.ok (writeSegments_slash (by simp))
  | number n =>
    rw [value] at writable
    simp only [Assigned.given, Option.getD_some, Datum.isEmptyText, Bool.false_eq_true, if_false,
      Route.segments, List.mapM_cons, List.mapM_nil, encodeSegment_number kind writable,
      reduceCtorEq, and_false]
    exact congrArg Except.ok (writeSegments_slash (by simp))

/-- Literal text is written in front of what the tokens after it are written as. -/
theorem writeTokens_literalBefore (route before : Text) (tokens : List PatternToken) :
    Route.writeTokens route entries (literalBefore before tokens) =
      (Route.writeTokens route entries tokens).map (before ++ ·) := by
  unfold literalBefore
  cases before with
  | nil =>
    show Route.writeTokens route entries tokens = _
    cases Route.writeTokens route entries tokens <;> rfl
  | cons c before =>
    rw [List.isEmpty_cons, if_neg Bool.false_ne_true, Route.writeTokens]
    rfl

/-- The items of a route are written as their segments, up to the first parameter that needs a value
and has none. -/
theorem writeTokens_listed (route : Text) {items : List SegmentItem}
    (looked : ∀ kind name, .parameter kind name ∈ items →
      Datum.lookup entries name = (assigned name).given)
    (writable : ∀ item ∈ items, item.IsWritable assigned) (before : Text) :
    Route.writeTokens route entries (itemTokens before items) =
      (items.findSome? (SegmentItem.missing? assigned)).elim
        (.ok (before ++ slashed (items.flatMap (SegmentItem.listed assigned))))
        fun needed => .error (.missingValue needed route) := by
  induction items generalizing before with
  | nil =>
    rw [itemTokens, writeTokens_literalBefore]
    rfl
  | cons item items ih =>
    have later := ih (fun kind name found => looked kind name (List.mem_cons_of_mem _ found))
      (fun other found => writable other (List.mem_cons_of_mem _ found))
    have first := writable item (List.mem_cons_self ..)
    rw [List.flatMap_cons, slashed_append, List.findSome?_cons]
    cases item with
    | literal text =>
      rw [itemTokens, later, ← List.append_assoc]
      simp [SegmentItem.listed, SegmentItem.missing?]
    | parameter kind name =>
      have placed :=
        writePlaceholder_listed route kind (looked kind name (List.mem_cons_self ..)) first
      rw [itemTokens, writeTokens_literalBefore, Route.writeTokens, placed, later []]
      cases (SegmentItem.parameter kind name).missing? assigned with
      | some needed => rfl
      | none => cases items.findSome? (SegmentItem.missing? assigned) <;> rfl

end Writing

/-! ## Segments -/

section Segments

variable {options : Options} {assigned : Text → Assigned}

/-- A text is the same as itself. -/
theorem sameText_refl (text : Text) : sameText options text text = true := by
  induction text with
  | nil => rfl
  | cons c text ih =>
    rw [sameText, sameCode_self, ih]
    rfl

/-- A number is taken as a segment of an integer. -/
theorem takes_number {kind : ParameterKind} (integer : kind.isInteger = true) (n : Nat) :
    kind.takes options (Text.ofNat n) = true := by
  have digits : ∀ c ∈ Text.ofNat n,
      setHolds options.flags false [.category .digit false] c.toNat = true := by
    unfold Options.flags
    cases options.sensitive with
    | false => exact Decimal.forall_mem_ofNat (fun c => _ = true) (by decide) n
    | true => exact Decimal.forall_mem_ofNat (fun c => _ = true) (by decide) n
  have given : (Text.ofNat n).isEmpty = false := by simpa using Decimal.ofNat_ne_nil n
  rw [ParameterKind.takes, given, List.all_eq_true.2]
  · rfl
  · intro c found
    rw [ParameterKind.accepts, if_pos integer]
    exact digits c found

/-- The segments of a path that may have none; then it is the root. -/
def orRoot (segments : List Text) : List Text := if segments.isEmpty then [[]] else segments

/-- A path is not without segments. -/
theorem orRoot_ne_nil (segments : List Text) : orRoot segments ≠ [] := by
  cases segments <;> simp [orRoot]

/-- The root adds only an empty segment. -/
theorem mem_orRoot {segments : List Text} {segment : Text} (found : segment ∈ orRoot segments) :
    segment ∈ segments ∨ segment = [] := by
  cases segments with
  | nil => exact .inr (List.mem_singleton.1 found)
  | cons first segments => exact .inl found

/-- The characters that no segment of a written path holds. -/
def pathBreaks : List Char := ['/', '?', '#', '\n']

/-- A character that is none of them belongs to the authority or the path of a URL. -/
theorem inUrl_of_not_mem_pathBreaks {c : Char} (free : c ∉ pathBreaks) :
    Parts.inAuthority c = true ∧ Parts.inPath c = true := by
  simp only [pathBreaks, List.mem_cons, List.not_mem_nil, or_false, not_or] at free
  simp [Parts.inAuthority, Parts.inPath, free]

/-- An encoded text holds none of them. -/
theorem Percent.not_mem_encode_of_break {c : Char} (broken : c ∈ pathBreaks) (text : Text) :
    c ∉ encode text := by
  have reserved : isUnreserved c = false ∧ c ≠ '%' := by fin_cases broken <;> decide
  exact not_mem_encode reserved.1 reserved.2 text

/-- No segment that an item is written as is empty or breaks the path. -/
theorem SegmentItem.mem_written {item : SegmentItem} (readable : item.Readable)
    (path : item.IsPath) (suited : item.Suited assigned) {segment : Text}
    (found : segment ∈ item.written assigned) :
    segment ≠ [] ∧ ∀ c ∈ pathBreaks, c ∉ segment := by
  cases item with
  | literal text =>
    rw [List.mem_singleton.1 found]
    refine ⟨readable.1, fun c broken inside => ?_⟩
    have free := readable.2 c inside
    simp only [pathBreaks, List.mem_cons, List.not_mem_nil, or_false] at broken
    rcases broken with rfl | rfl | rfl | rfl
    · exact free (by decide)
    · exact path.1 inside
    · exact path.2 inside
    · exact free (by decide)
  | parameter kind name =>
    obtain ⟨text, member, rfl⟩ := List.mem_map.1 found
    exact ⟨Percent.encode_ne_nil (suited.ne_nil text member),
      fun c broken => Percent.not_mem_encode_of_break broken text⟩

/-- The block that an item is written as fits it. -/
theorem SegmentItem.fits_written {item : SegmentItem} (suited : item.Suited assigned) :
    item.Fits options (item.written assigned) := by
  cases item with
  | literal text => exact ⟨text, rfl, sameText_refl text⟩
  | parameter kind name =>
    have suits : (assigned name).Suits kind := suited
    refine ⟨by simpa [written] using suits.allows, fun segment found => ?_⟩
    obtain ⟨text, member, rfl⟩ := List.mem_map.1 found
    cases integer : kind.isInteger with
    | false =>
      have slashless : '/' ∉ Percent.encode text :=
        Percent.not_mem_encode (by decide) (by decide) text
      exact (kind.takes_iff integer slashless).2 (Percent.encode_ne_nil (suits.ne_nil text member))
    | true =>
      obtain ⟨n, same, -⟩ := suits.number_of_isInteger integer
      rw [same] at member
      have plain := Decimal.forall_mem_ofNat (Percent.isUnreserved · = true) (by decide) n
      rw [List.mem_singleton.1 member, Percent.encode_unreserved plain]
      exact takes_number integer n

end Segments

end RoutePattern
