import RoutePattern.Proofs.Groups.Row

/-!
# Reading the tokens of a route

A scan that faces the source of some tokens reaches the end of this source, if the parentheses of
every placeholder are those of a group. The groups are numbered in the order of the placeholders as
long as there are no others.
-/
namespace RoutePattern

open Regex
open Regex.Reader (Reads)
open Regex.Scan (Captures Leaves facing)

/-- A reader with one more item than another one. -/
theorem eq_addItem {reader next : Reader} (item : Item)
    (frame : next.frame = (reader.addItem item).frame) :
    next = ({ next with frame := reader.frame } : Reader).addItem item := by
  obtain ⟨flags, alphabets, names, widths, references, behindLimit, innermost, outer⟩ := next
  obtain rfl : innermost = (reader.addItem item).frame := frame
  rfl

/-- A plain group that is closed adds one item with its parts, and no group. -/
theorem closeFrame_plain {inner reader : Reader} {start : Nat} {verbose : Bool} {parts : List Expr}
    (frame : inner.frame = ((reader.openFrame .plain start verbose).append parts).frame) :
    (inner.closeFrame reader.frame reader.outer).frame =
        (reader.addItem (.enclosed parts)).frame ∧
      (inner.closeFrame reader.frame reader.outer).widths = inner.widths := by
  have inside : inner.frame.parts = parts := by
    rw [frame]
    exact Reader.frame_parts_append (reader.openFrame .plain start verbose) parts rfl rfl
  have kind : inner.frame.kind = .plain := by rw [frame]; rfl
  constructor
  · simp only [Reader.closeFrame, Reader.closedItem, kind, inside]
    rfl
  · simp only [Reader.closeFrame, kind]

section Tokens

variable {source : Text} {flags : Flags} {reader : Reader} {position : Nat}

/-- A text without groups is read as its parts. -/
theorem reaches_parts {text : Text} {parts : List Expr} (reads : Reads text 0 fun _ => parts)
    (reader : Reader) (position : Nat) (rest : Text)
    (unsigned : StartsUnsigned rest) :
    (facing reader position (text ++ rest)).Reaches
      (facing (reader.append parts) (position + text.length) rest) := by
  obtain ⟨widths, none, reading⟩ := reads reader position
  rw [List.length_eq_zero_iff.1 none, Reader.widen_nil] at reading
  exact reading rest unsigned

/-- A question mark after a group that has just been read repeats the group. -/
theorem reaches_optional {rest : Text} {next : Reader} (item : Item)
    (frame : next.frame = (reader.addItem item).frame)
    (grouped : (∃ parts, item = .enclosed parts) ∨ ∃ index body, item = .part (.group index body))
    (unsigned : StartsUnsigned rest) (position : Nat) :
    (facing next position ('?' :: rest)).Reaches
      (facing (({ next with frame := reader.frame } : Reader).append
        [.loop 0 (some 1) .greedy (.sequence item.parts)]) (position + 1) rest) := by
  have repeated := Reader.reaches_repeat (.inl ⟨rfl, rfl⟩) unsigned position
    { next with frame := reader.frame } grouped
  rw [← eq_addItem item frame] at repeated
  exact repeated

/-- The parts that a lead is read as. -/
def leadParts (lead : Option Char) : List Expr := lead.toList.map fun c => .char c.toNat

/-- The parts of a lead are plain. -/
theorem plain_leadParts (lead : Option Char) : Plain (leadParts lead) := plain_chars lead.toList

/-- A lead and a group are read as their parts. -/
theorem reaches_led {lead : Option Char} {text rest : Text} {index : Nat}
    (faces : (Scan.start source flags).Reaches
      (facing reader position (leadSource lead ++ '(' :: (text ++ ')' :: rest))))
    (older : ∀ frame ∈ reader.frame :: reader.outer, frame.start < position)
    (captures : Captures source flags index (position + (leadSource lead).length,
      position + (leadSource lead).length + 1 + text.length)) :
    index = reader.widths.length + 1 ∧ ∃ body next,
      Leaves (reader.append (leadParts lead)) text body next ∧
      next.frame = (reader.append (leadParts lead ++ [.group (reader.widths.length + 1) body])).frame ∧
      (Scan.start source flags).Reaches
        (facing next (position + (leadSource lead).length + 1 + text.length + 1) rest) := by
  have reading := reaches_parts (Reads.lead lead) reader position ('(' :: (text ++ ')' :: rest))
    (by simp [StartsUnsigned])
  have earlier : ∀ frame ∈ (reader.append (leadParts lead)).frame :: reader.outer,
      frame.start < position + (leadSource lead).length := by
    obtain ⟨innermost, others⟩ := List.forall_mem_cons.1 older
    refine List.forall_mem_cons.2 ⟨Nat.lt_add_right _ innermost, fun frame found => ?_⟩
    exact Nat.lt_add_right _ (others frame found)
  obtain ⟨number, body, next, leaves, reaches⟩ :=
    Scan.reaches_group (faces.trans reading) earlier captures
  refine ⟨number, body, next, leaves, ?_, reaches⟩
  rw [leaves.frame, Reader.append_append]
  rfl

/-! ## Placeholders -/

variable {found : Placeholder} {rest : Text} {index : Nat}

/-- A placeholder that has to be there is a lead and a group. -/
theorem extends_required (required : found.optional = false)
    (faces : (Scan.start source flags).Reaches (facing reader position (found.source ++ rest)))
    (older : ∀ frame ∈ reader.frame :: reader.outer, frame.start < position)
    (captures : Captures source flags index (found.groupPlace position)) :
    index = reader.widths.length + 1 ∧ ∃ parts next, Extends [found] parts reader next ∧
      (Scan.start source flags).Reaches (facing next (position + found.source.length) rest) := by
  have front : found.front = leadSource found.lead := by simp [Placeholder.front, required]
  have back : found.back = [] := by simp [Placeholder.back, required]
  rw [found.source_append, front, back, List.nil_append] at faces
  rw [Placeholder.groupPlace, front] at captures
  obtain ⟨number, body, next, leaves, frame, reaches⟩ := reaches_led faces older captures
  refine ⟨number, _, next, .ofLeaves leaves rfl rfl frame leaves.outer rfl rfl fun free => ?_, ?_⟩
  · exact .plains (plain_leadParts found.lead) (.group free (.nil _))
  · rw [found.length_source, front, back]
    simpa [Nat.add_assoc] using reaches

/-- A placeholder without a lead that may be missing is a group with a question mark. -/
theorem extends_optional (optional : found.optional = true)
    (leadless : leadSource found.lead = []) (unsigned : StartsUnsigned rest)
    (faces : (Scan.start source flags).Reaches (facing reader position (found.source ++ rest)))
    (older : ∀ frame ∈ reader.frame :: reader.outer, frame.start < position)
    (captures : Captures source flags index (found.groupPlace position)) :
    index = reader.widths.length + 1 ∧ ∃ parts next, Extends [found] parts reader next ∧
      (Scan.start source flags).Reaches (facing next (position + found.source.length) rest) := by
  have front : found.front = [] := by simp [Placeholder.front, optional, leadless]
  have back : found.back = ['?'] := by simp [Placeholder.back, optional, leadless]
  rw [found.source_append, front, back] at faces
  rw [Placeholder.groupPlace, front] at captures
  obtain ⟨number, body, next, leaves, reaches⟩ := Scan.reaches_group faces older captures
  have repeated := reaches_optional (.part (.group (reader.widths.length + 1) body)) leaves.frame
    (.inr ⟨_, body, rfl⟩) unsigned (position + 1 + found.captureSource.length + 1)
  have row (free : body.groupCount = 0) := Row.optional (show Plain [] by decide) free
    (.nil (reader.widths.length + 1))
  let base : Reader := { next with frame := reader.frame }
  refine ⟨number, _, base.append _, .ofLeaves leaves rfl rfl rfl leaves.outer rfl rfl row, ?_⟩
  rw [found.length_source, front, back]
  simpa [Nat.add_assoc, Item.parts, base] using reaches.trans repeated

/-- A placeholder with a lead that may be missing is a plain group of both with a question mark. -/
theorem extends_ledOptional (optional : found.optional = true)
    (led : leadSource found.lead ≠ []) (unsigned : StartsUnsigned rest)
    (faces : (Scan.start source flags).Reaches (facing reader position (found.source ++ rest)))
    (older : ∀ frame ∈ reader.frame :: reader.outer, frame.start < position)
    (captures : Captures source flags index (found.groupPlace position)) :
    index = reader.widths.length + 1 ∧ ∃ parts next, Extends [found] parts reader next ∧
      (Scan.start source flags).Reaches (facing next (position + found.source.length) rest) := by
  have given : (leadSource found.lead).isEmpty = false := by simpa using led
  have front : found.front = ['(', '?', ':'] ++ leadSource found.lead := by
    simp [Placeholder.front, optional, given]
  have back : found.back = [')', '?'] := by simp [Placeholder.back, optional, given]
  rw [found.source_append, front, back, List.append_assoc] at faces
  have place : found.groupPlace position = (position + 3 + (leadSource found.lead).length,
      position + 3 + (leadSource found.lead).length + 1 + found.captureSource.length) := by
    rw [Placeholder.groupPlace, front]
    simp [Nat.add_assoc, Nat.add_comm 3]
  rw [place] at captures
  -- Three stages of the reader: the group around lead and capture opens, its body is read as for a
  -- placeholder that must be there, and it closes with a question mark behind it.
  let opened := reader.openFrame .plain position reader.frame.verbose
  have opens := Reader.reaches_openFrame (.inl ⟨rfl, rfl⟩) (leadSource found.lead ++
    '(' :: (found.captureSource ++ ')' :: ')' :: '?' :: rest)) position reader
  have earlier : ∀ frame ∈ opened.frame :: opened.outer, frame.start < position + 3 := by
    refine List.forall_mem_cons.2 ⟨Nat.lt_add_of_pos_right (by decide), fun frame member => ?_⟩
    exact Nat.lt_add_right _ (older frame member)
  obtain ⟨number, body, inner, leaves, frame, reaches⟩ :=
    reaches_led (faces.trans opens) earlier captures
  have close := Reader.reaches_close ('?' :: rest) (position + 3 + (leadSource found.lead).length +
    1 + found.captureSource.length + 1) leaves.outer
  obtain ⟨closed, widths⟩ := closeFrame_plain frame
  have repeated := reaches_optional
    (.enclosed (leadParts found.lead ++ [.group (reader.widths.length + 1) body])) closed
    (.inl ⟨_, rfl⟩) unsigned
    (position + 3 + (leadSource found.lead).length + 1 + found.captureSource.length + 1 + 1)
  have row (free : body.groupCount = 0) := Row.optional (plain_leadParts found.lead) free
    (.nil (reader.widths.length + 1))
  let base : Reader := { inner.closeFrame reader.frame reader.outer with frame := reader.frame }
  refine ⟨number, _, base.append _, .ofLeaves leaves rfl rfl rfl rfl widths rfl row, ?_⟩
  rw [found.length_source, front, back]
  simpa [Nat.add_assoc, Nat.add_comm 3, Item.parts, base] using
    (reaches.trans close).trans repeated

/-- A placeholder is read as its parts. -/
theorem extends_placeholder (unsigned : StartsUnsigned rest)
    (faces : (Scan.start source flags).Reaches (facing reader position (found.source ++ rest)))
    (older : ∀ frame ∈ reader.frame :: reader.outer, frame.start < position)
    (captures : Captures source flags index (found.groupPlace position)) :
    index = reader.widths.length + 1 ∧ ∃ parts next, Extends [found] parts reader next ∧
      (Scan.start source flags).Reaches (facing next (position + found.source.length) rest) := by
  cases optional : found.optional with
  | false => exact extends_required optional faces older captures
  | true =>
    by_cases leadless : leadSource found.lead = []
    · exact extends_optional optional leadless unsigned faces older captures
    · exact extends_ledOptional optional leadless unsigned faces older captures

/-- Tokens are read as their parts, one after the other. -/
theorem exists_extends (tokens : List PatternToken) (unsigned : StartsUnsigned rest)
    (faces : (Scan.start source flags).Reaches
      (facing reader position (tokens.flatMap PatternToken.source ++ rest)))
    (older : ∀ frame ∈ reader.frame :: reader.outer, frame.start < position)
    (captures : ∀ places ∈ groupPlaces position tokens, ∃ index,
      Captures source flags index places) :
    ∃ parts next, Extends (placeholders tokens) parts reader next ∧
      (Scan.start source flags).Reaches
        (facing next (position + (tokens.flatMap PatternToken.source).length) rest) ∧
      (next.widths.length = reader.widths.length + (placeholders tokens).length →
        ∀ index places, (groupPlaces position tokens)[index]? = some places →
          Captures source flags (reader.widths.length + index + 1) places) := by
  induction tokens generalizing reader position with
  | nil =>
    exact ⟨[], reader, .ofPlain (by decide) reader, faces, by simp [groupPlaces]⟩
  | cons token tokens ih =>
    have free := startsUnsigned_sources tokens unsigned
    rw [List.flatMap_cons, List.append_assoc] at faces
    cases token with
    | literal text =>
      have first := Extends.ofPlain (plain_chars text) reader
      have reading := faces.trans (reaches_parts (Reads.literal text) reader position _ free)
      obtain ⟨parts, next, later, reaches, numbered⟩ :=
        ih reading (first.older older (Nat.le_add_right ..)) captures
      refine ⟨_, next, first.trans later, ?_, numbered⟩
      rw [List.flatMap_cons, List.length_append, ← Nat.add_assoc]
      exact reaches
    | placeholder found =>
      obtain ⟨own, others⟩ := List.forall_mem_cons.1 captures
      obtain ⟨index, captured⟩ := own
      obtain ⟨rfl, one, middle, first, reading⟩ :=
        extends_placeholder free faces older captured
      obtain ⟨parts, next, later, reaches, numbered⟩ :=
        ih reading (first.older older (Nat.le_add_right ..)) others
      refine ⟨_, next, first.trans later, ?_, fun same => ?_⟩
      · rw [List.flatMap_cons, List.length_append, ← Nat.add_assoc]
        exact reaches
      · have count : (placeholders (.placeholder found :: tokens)).length =
            (placeholders tokens).length + 1 := rfl
        have least := first.widths
        have more := later.widths
        rw [List.length_singleton] at least
        rintro (- | index) places place
        · obtain rfl := Option.some.inj place
          exact captured
        · have next := numbered (by omega) index places place
          have number : middle.widths.length + index + 1 =
              reader.widths.length + (index + 1) + 1 := by omega
          exact number ▸ next

end Tokens

end RoutePattern
