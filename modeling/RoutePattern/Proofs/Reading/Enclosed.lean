import RoutePattern.Proofs.Reading.Moves
import RoutePattern.Proofs.Reading.Source

/-!
# Groups from their opening to their closing

As long as a group is open, the groups around it are left alone, and no other one that is open
begins where it does (`Within`). So a group is known by the place of its parenthesis, and where a
scan stands in front of the parenthesis that closes it, what has been read since belongs to it
(`reaches_closing`).
-/
namespace RoutePattern.Regex

namespace Reader

/-- A group that `opened` has just opened is still open: `above` are the groups open inside it, and
`own` is what it holds by now. -/
structure Within (opened reader : Reader) (above : List Frame) (own : Frame) : Prop where
  stack : reader.frame :: reader.outer = above ++ own :: opened.outer
  kind : own.kind = opened.frame.kind
  start : own.start = opened.frame.start
  later : ∀ frame ∈ above, opened.frame.start < frame.start
  widths : opened.widths.length ≤ reader.widths.length
  names : opened.names <+: reader.names
  /-- Unless a group has been opened since that remembers what it matches. -/
  quiet : reader.widths.length = opened.widths.length → reader.names = opened.names ∧ own.IsFree ∧
    ∀ frame ∈ above, frame.IsFree ∧ frame.isCapture = false

/-- No group is open that begins at a place. -/
def Outside (place : Nat) (reader : Reader) : Prop :=
  ∀ frame ∈ reader.frame :: reader.outer, frame.start ≠ place

variable {opened reader next : Reader} {place position : Nat}

/-- A group that has just been opened is open. -/
theorem Within.refl (free : opened.frame.IsFree) : opened.Within opened [] opened.frame where
  stack := rfl
  kind := rfl
  start := rfl
  later := by simp
  widths := Nat.le_refl _
  names := List.prefix_rfl
  quiet := fun _ => ⟨rfl, free, by simp⟩

/-- A token at a later place opens no group there. -/
theorem Outside.moves (outside : Outside place reader) (later : place < position)
    (moves : reader.Moves position next) : Outside place next := by
  intro frame found
  have around (inside : frame ∈ reader.outer) : frame.start ≠ place :=
    outside frame (List.mem_cons_of_mem _ inside)
  have innermost := outside reader.frame (List.mem_cons_self ..)
  cases moves with
  | stays outer kind start free widths names =>
    rcases List.mem_cons.1 found with rfl | found
    · rw [start]
      exact innermost
    · exact around (outer ▸ found)
  | opens outer start free plain widths names =>
    rcases List.mem_cons.1 found with rfl | found
    · omega
    · rw [outer] at found
      exact outside frame found
  | captures outer start free kind widths names =>
    rcases List.mem_cons.1 found with rfl | found
    · omega
    · rw [outer] at found
      exact outside frame found
  | @closes outermost outer kind start free widths names =>
    rcases List.mem_cons.1 found with rfl | found
    · rw [start]
      exact outside outermost (List.mem_cons_of_mem _ (by rw [outer]; exact List.mem_cons_self ..))
    · exact around (by rw [outer]; exact List.mem_cons_of_mem _ found)

section Moves

variable {above : List Frame} {own : Frame}

/-- Where the innermost group stays open, the group that is watched stays open. -/
theorem Within.stays (within : opened.Within reader above own) (outer : next.outer = reader.outer)
    (kind : next.frame.kind = reader.frame.kind) (start : next.frame.start = reader.frame.start)
    (free : reader.widths.length = opened.widths.length → reader.frame.IsFree →
      next.frame.IsFree)
    (widths : next.widths.length = reader.widths.length) (names : next.names = reader.names) :
    ∃ above own, opened.Within next above own := by
  have stack := within.stack
  have capture : next.frame.isCapture = reader.frame.isCapture := by simp [Frame.isCapture, kind]
  -- The innermost group is the one that is watched, or it was opened inside of it.
  cases above with
  | nil =>
    obtain ⟨rfl, around⟩ := List.cons.inj stack
    refine ⟨[], next.frame, ?_, kind.trans within.kind, start.trans within.start, by simp,
      widths ▸ within.widths, names ▸ within.names, fun same => ?_⟩
    · rw [outer, around]
      rfl
    · obtain ⟨sameNames, ownFree, -⟩ := within.quiet (widths ▸ same)
      exact ⟨names.trans sameNames, free (widths ▸ same) ownFree, by simp⟩
  | cons first above =>
    obtain ⟨rfl, around⟩ := List.cons.inj stack
    refine ⟨next.frame :: above, own, ?_, within.kind, within.start, ?_, widths ▸ within.widths,
      names ▸ within.names, fun same => ?_⟩
    · rw [outer, around]
      rfl
    · rw [List.forall_mem_cons, start]
      exact List.forall_mem_cons.1 within.later
    · obtain ⟨sameNames, ownFree, all⟩ := within.quiet (widths ▸ same)
      obtain ⟨one, others⟩ := List.forall_mem_cons.1 all
      refine ⟨names.trans sameNames, ownFree,
        List.forall_mem_cons.2 ⟨⟨free (widths ▸ same) one.1, ?_⟩, others⟩⟩
      rw [capture]
      exact one.2

/-- Where a group is opened, the group that is watched is around it. -/
theorem Within.opens (within : opened.Within reader above own)
    (later : opened.frame.start < position) (outer : next.outer = reader.frame :: reader.outer)
    (start : next.frame.start = position) (widths : reader.widths.length ≤ next.widths.length)
    (names : reader.names <+: next.names)
    (quiet : next.widths.length = reader.widths.length →
      next.names = reader.names ∧ next.frame.IsFree ∧ next.frame.isCapture = false) :
    opened.Within next (next.frame :: above) own where
  stack := by rw [outer, within.stack, List.cons_append]
  kind := within.kind
  start := within.start
  later := List.forall_mem_cons.2 ⟨by omega, within.later⟩
  widths := Nat.le_trans within.widths widths
  names := within.names.trans names
  quiet := by
    intro same
    have before := within.widths
    obtain ⟨sameNames, ownFree, all⟩ := within.quiet (by omega)
    obtain ⟨newNames, newFree, plain⟩ := quiet (by omega)
    exact ⟨newNames.trans sameNames, ownFree, List.forall_mem_cons.2 ⟨⟨newFree, plain⟩, all⟩⟩

/-- Where the innermost group is closed, the group that is watched is closed if it is this one. -/
theorem Within.closes (within : opened.Within reader above own)
    (older : ∀ frame ∈ opened.outer, frame.start ≠ opened.frame.start) {outermost : Frame}
    (outer : reader.outer = outermost :: next.outer) (kind : next.frame.kind = outermost.kind)
    (start : next.frame.start = outermost.start)
    (free : reader.frame.isCapture = false → reader.frame.IsFree → outermost.IsFree →
      next.frame.IsFree)
    (widths : next.widths.length = reader.widths.length) (names : next.names = reader.names) :
    (∃ above own, opened.Within next above own) ∨ Outside opened.frame.start next := by
  have stack := within.stack
  rw [outer] at stack
  cases above with
  | nil =>
    right
    obtain ⟨-, around⟩ := List.cons.inj stack
    rw [← around] at older
    obtain ⟨one, others⟩ := List.forall_mem_cons.1 older
    exact List.forall_mem_cons.2 ⟨start ▸ one, others⟩
  | cons first above =>
    left
    obtain ⟨rfl, outside⟩ := List.cons.inj stack
    -- The reader without its innermost group stays within, and then this group's contents are added.
    let popped : Reader := { reader with frame := outermost, outer := next.outer }
    have inside : opened.Within popped above own := by
      refine ⟨outside, within.kind, within.start, (List.forall_mem_cons.1 within.later).2,
        within.widths, within.names, fun same => ?_⟩
      obtain ⟨sameNames, ownFree, all⟩ := within.quiet same
      exact ⟨sameNames, ownFree, (List.forall_mem_cons.1 all).2⟩
    refine inside.stays rfl kind start (fun same outerFree => ?_) widths names
    obtain ⟨-, -, all⟩ := within.quiet same
    obtain ⟨innerFree, plain⟩ := (List.forall_mem_cons.1 all).1
    exact free plain innerFree outerFree

/-- One token leaves the group that is watched open, or closes it for good. -/
theorem Within.moves (within : opened.Within reader above own)
    (older : ∀ frame ∈ opened.outer, frame.start ≠ opened.frame.start)
    (later : opened.frame.start < position) (moves : reader.Moves position next) :
    (∃ above own, opened.Within next above own) ∨ Outside opened.frame.start next := by
  cases moves with
  | stays outer kind start free widths names =>
    exact .inl (within.stays outer kind start (fun _ => free) widths names)
  | opens outer start free plain widths names =>
    exact .inl ⟨_, _, within.opens later outer start (Nat.le_of_eq widths.symm)
      (names ▸ List.prefix_rfl) fun _ => ⟨names, free, plain⟩⟩
  | captures outer start free kind widths names =>
    refine .inl ⟨_, _, within.opens later outer start (by omega) names fun same => ?_⟩
    omega
  | closes outer kind start free widths names =>
    exact within.closes older outer kind start free widths names

/-- Where the innermost group begins where the one that is watched does, it is this one. -/
theorem Within.closing (within : opened.Within reader above own)
    (here : reader.frame.start = opened.frame.start) :
    reader.frame = own ∧ reader.outer = opened.outer := by
  have stack := within.stack
  cases above with
  | nil => exact List.cons.inj stack
  | cons first above =>
    obtain ⟨rfl, -⟩ := List.cons.inj stack
    have later := within.later reader.frame (List.mem_cons_self ..)
    omega

end Moves

end Reader

namespace Scan

open Reader (Within Outside)

/-- A scan moves its reader, or leaves it as it is. -/
theorem moves_of_next? {one two : Scan} (next : one.next? = some two) :
    two.reader = one.reader ∨ one.reader.Moves one.position two.reader := by
  obtain ⟨token, tokens, -, -, -, -, passed | ⟨-, cursor, read, -⟩⟩ := next?_cases next
  · exact .inl passed.2
  · exact .inr ((Reader.readToken_moves ..).holds_of_ok _ read)

/-- Later tokens open no group at an earlier place. -/
theorem outside_of_reaches {place : Nat} {one two : Scan} (reaches : one.Reaches two)
    (later : place < one.position) (outside : Outside place one.reader) :
    Outside place two.reader := by
  induction reaches with
  | refl => exact outside
  | tail earlier next ih =>
    have further := Reaches.position_le earlier
    rcases moves_of_next? next with same | moves
    · rw [same]
      exact ih
    · exact ih.moves (by omega) moves

/-- A group stays open or is closed for good, however far a scan goes. -/
theorem within_of_reaches {opened : Reader}
    (older : ∀ frame ∈ opened.outer, frame.start ≠ opened.frame.start) {one two : Scan}
    (reaches : one.Reaches two) (later : opened.frame.start < one.position)
    (within : (∃ above own, opened.Within one.reader above own) ∨ Outside opened.frame.start one.reader) :
    (∃ above own, opened.Within two.reader above own) ∨ Outside opened.frame.start two.reader := by
  induction reaches with
  | refl => exact within
  | tail earlier next ih =>
    have further := Reaches.position_le earlier
    rcases moves_of_next? next with same | moves
    · rw [same]
      exact ih
    · rcases ih with ⟨above, own, inside⟩ | outside
      · exact inside.moves older (by omega) moves
      · exact .inr (outside.moves (by omega) moves)

/-- The parentheses at two places are those of a group that remembers what it matches: in front of
the second one, the innermost open group is the one that the first one has opened. -/
def Captures (source : Text) (flags : Flags) (index : Nat) (places : Nat × Nat) : Prop :=
  ∃ scan, (start source flags).Reaches scan ∧ scan.skip = 0 ∧ scan.position = places.2 ∧
    scan.tokens.head? = some (.plain ')') ∧ scan.reader.frame.start = places.1 ∧
    scan.reader.frame.kind = .capture index

/-- What has been read between the parentheses of a group: `inner` is the reader in front of the
closing one, and `reader` was in front of the opening one. -/
structure Encloses (reader : Reader) (text : Text) (inner : Reader) : Prop where
  outer : inner.outer = reader.frame :: reader.outer
  kind : inner.frame.kind = .capture (reader.widths.length + 1)
  widths : reader.widths.length < inner.widths.length
  names : reader.names <+: inner.names
  /-- A question mark at the start gives the group a name. -/
  marked : text.head? = some '?' → inner.names ≠ []
  /-- Unless groups inside remember what they match as well. -/
  quiet : inner.widths.length = reader.widths.length + 1 →
    inner.frame.IsFree ∧ (text.head? ≠ some '?' → inner.names = reader.names)

/-- A group that has just been opened is the innermost one later if one is that begins where it
does. -/
theorem within_of_opened {reader : Reader} {one two : Scan} {place : Nat}
    (outer : one.reader.outer = reader.frame :: reader.outer)
    (start : one.reader.frame.start = place) (free : one.reader.frame.IsFree)
    (reaches : one.Reaches two) (later : place < one.position)
    (older : ∀ frame ∈ reader.frame :: reader.outer, frame.start < place)
    (here : two.reader.frame.start = place) :
    two.reader.outer = one.reader.outer ∧
      ∃ above own, one.reader.Within two.reader above own ∧ two.reader.frame = own := by
  have others : ∀ frame ∈ one.reader.outer, frame.start ≠ one.reader.frame.start := by
    intro frame found
    rw [outer] at found
    have before := older frame found
    omega
  rcases within_of_reaches others reaches (by omega) (.inl ⟨_, _, .refl free⟩) with
    ⟨above, own, within⟩ | outside
  · obtain ⟨same, around⟩ := within.closing (here.trans start.symm)
    exact ⟨around, above, own, within, same⟩
  · exact absurd (here.trans start.symm) (outside _ (List.mem_cons_self ..))

/-- A parenthesis opens a group that remembers what it matches if such a group is innermost later
that begins there. -/
theorem opened_of_reaches {reader : Reader} {one two : Scan} {place index : Nat}
    (moves : reader.Moves place one.reader) (reaches : one.Reaches two)
    (later : place < one.position)
    (older : ∀ frame ∈ reader.frame :: reader.outer, frame.start < place)
    (here : two.reader.frame.start = place) (kind : two.reader.frame.kind = .capture index) :
    one.reader.outer = reader.frame :: reader.outer ∧
      one.reader.frame.kind = .capture (reader.widths.length + 1) ∧
      one.reader.widths.length = reader.widths.length + 1 ∧
      reader.names <+: one.reader.names ∧
      two.reader.outer = one.reader.outer ∧
      ∃ above own, one.reader.Within two.reader above own ∧ two.reader.frame = own := by
  -- Only the token at the place can open a group there, which rules out two of the four moves.
  have lost (outside : Outside place one.reader) : False :=
    outside_of_reaches reaches later outside two.reader.frame (List.mem_cons_self ..) here
  cases moves with
  | stays outer _ start free widths names =>
    refine (lost fun frame found => ?_).elim
    rw [outer] at found
    rcases List.mem_cons.1 found with rfl | found
    · have before := older reader.frame (List.mem_cons_self ..)
      omega
    · have before := older frame (List.mem_cons_of_mem _ found)
      omega
  | opens outer start free plain widths names =>
    obtain ⟨-, above, own, within, same⟩ :=
      within_of_opened outer start free reaches later older here
    rw [Frame.isCapture, ← within.kind, ← same, kind] at plain
    exact absurd plain Bool.noConfusion
  | captures outer start free opened widths names =>
    exact ⟨outer, opened, widths, names,
      within_of_opened outer start free reaches later older here⟩
  | @closes outermost outer _ start free widths names =>
    refine (lost fun frame found => ?_).elim
    rw [outer] at older
    rcases List.mem_cons.1 found with rfl | found
    · have before := older outermost (by simp)
      omega
    · have before := older frame (by simp [found])
      omega

/-- What a scan of a source faces is what is left of the source. -/
theorem drop_eq {source text : Text} {flags : Flags} {reader : Reader} {position : Nat}
    (reaches : (start source flags).Reaches (facing reader position text)) :
    source.drop position = text := by
  have same := congrArg (List.flatMap Token.text) (tokens_eq reaches)
  rw [Token.flatMap_text_ofText] at same
  exact same.symm.trans (Token.flatMap_text_ofText text)

/-- A scan that has nothing to pass over faces what is left of the source. -/
theorem eq_facing {source : Text} {flags : Flags} {scan : Scan}
    (reaches : (start source flags).Reaches scan) (skip : scan.skip = 0) :
    scan = facing scan.reader scan.position (source.drop scan.position) := by
  have left := tokens_eq reaches
  obtain ⟨reader, tokens, skipped, position⟩ := scan
  simp only at left skip
  rw [left, skip]
  rfl

/-- A scan that gets further takes a first step. -/
theorem exists_next {one two : Scan} (reaches : one.Reaches two)
    (further : one.position < two.position) :
    ∃ next, one.next? = some next ∧ next.Reaches two := by
  rcases Relation.ReflTransGen.cases_head reaches with same | more
  · rw [same] at further
    exact absurd further (Nat.lt_irrefl _)
  · exact more

/-- The step of a scan that faces a character reads this character. -/
theorem read_of_next? {reader : Reader} {position : Nat} {c : Char} {text : Text} {two : Scan}
    (bare : c ≠ '\\') (next : (facing reader position (c :: text)).next? = some two) :
    two.position = position + 1 ∧ ∃ cursor, reader.readToken (.plain c) position
      ⟨Token.ofText text, position + 1⟩ = .ok (two.reader, cursor) := by
  obtain ⟨token, tokens, cut, -, -, moved, passed | ⟨-, cursor, read, -⟩⟩ := next?_cases next
  · exact absurd passed.1 (by simp [facing])
  · rw [facing, Token.ofText_cons bare] at cut
    obtain ⟨rfl, rfl⟩ := List.cons.inj cut
    exact ⟨moved, cursor, read⟩

/-- A group that is opened without a question mark has no name, and one with a question mark that
remembers what it matches has one. -/
theorem names_of_opened {reader opened : Reader} {position : Nat} {text : Text} {cursor : Cursor}
    (read : reader.readToken (.plain '(') position
      ⟨Token.ofText text, position + 1⟩ = .ok (opened, cursor))
    (widths : opened.widths.length = reader.widths.length + 1) :
    (text.head? ≠ some '?' → opened.names = reader.names) ∧
      (text.head? = some '?' → opened.names ≠ []) := by
  constructor
  · intro bare
    rw [Reader.readToken_open position (Reader.startsWith_facing bare _)] at read
    obtain ⟨rfl, -⟩ := Prod.mk.inj (Except.ok.inj read)
    rfl
  · intro mark
    obtain ⟨rest, rfl⟩ : ∃ rest, text = '?' :: rest := by
      cases text with
      | nil => exact absurd mark (by simp)
      | cons c rest => exact ⟨rest, by rw [Option.some.inj mark]⟩
    have sign : (⟨Token.ofText ('?' :: rest), position + 1⟩ : Cursor).startsWith '?' = true := by
      simp [Cursor.startsWith, Token.ofText_cons]
    have marked := (Reader.readToken_marked reader position _ sign).holds_of_ok _ read
    rcases marked.named with same | named
    · simp only at same
      omega
    · exact named

/-- A group that remembers what it matches is read from its opening parenthesis to its closing
one. -/
theorem exists_encloses {source text rest : Text} {flags : Flags} {reader : Reader}
    {position index : Nat}
    (opens : (start source flags).Reaches (facing reader position ('(' :: (text ++ ')' :: rest))))
    (older : ∀ frame ∈ reader.frame :: reader.outer, frame.start < position)
    (captures : Captures source flags index (position, position + 1 + text.length)) :
    index = reader.widths.length + 1 ∧ ∃ inner, Encloses reader text inner ∧
      (start source flags).Reaches (facing inner (position + 1 + text.length) (')' :: rest)) := by
  obtain ⟨closing, closes, skip, place, -, here, kind⟩ := captures
  -- Runs from one start pass the same places, so the closing parenthesis comes after the opening.
  have between : (facing reader position ('(' :: (text ++ ')' :: rest))).Reaches closing :=
    opens.of_le closes (by simp only [facing]; omega)
  obtain ⟨opened, first, later⟩ := exists_next between (by simp only [facing]; omega)
  obtain ⟨moved, cursor, read⟩ := read_of_next? (by decide) first
  have moves := (Reader.readToken_moves ..).holds_of_ok _ read
  obtain ⟨outer, named, widths, names, around, above, own, within, same⟩ :=
    opened_of_reaches moves later (by omega) older here kind
  have number : closing.reader.frame.kind = .capture (reader.widths.length + 1) := by
    rw [same, within.kind, named]
  have whole : closing = facing closing.reader (position + 1 + text.length) (')' :: rest) := by
    have dropped : source.drop (position + 1 + text.length) = ')' :: rest := by
      rw [Nat.add_assoc, ← List.drop_drop, drop_eq opens, Nat.add_comm 1]
      simp
    have reached : closing.position = position + 1 + text.length := place
    rw [← dropped, ← reached]
    exact eq_facing closes skip
  obtain ⟨bare, marked⟩ := names_of_opened read widths
  have opening : (text ++ ')' :: rest).head? = some '?' ↔ text.head? = some '?' := by
    cases text <;> simp
  refine ⟨?_, closing.reader, ?_, whole ▸ closes⟩
  · rw [kind] at number
    exact FrameKind.capture.inj number
  · refine ⟨around.trans outer, number, ?_, names.trans within.names, fun mark none => ?_,
      fun all => ?_⟩
    · have more := within.widths
      omega
    · have grown := within.names
      rw [none] at grown
      exact marked (opening.2 mark) (List.prefix_nil.1 grown)
    · obtain ⟨sameNames, free, -⟩ := within.quiet (by omega)
      exact ⟨same ▸ free, fun plainly => sameNames.trans (bare (opening.not.2 plainly))⟩

/-- What a group leaves behind once it is closed: `next` is the reader after its parentheses with
the text between them, and `reader` was in front of them. -/
structure Leaves (reader : Reader) (text : Text) (body : Expr) (next : Reader) : Prop where
  frame : next.frame = (reader.append [.group (reader.widths.length + 1) body]).frame
  outer : next.outer = reader.outer
  widths : reader.widths.length < next.widths.length
  names : reader.names <+: next.names
  marked : text.head? = some '?' → next.names ≠ []
  quiet : next.widths.length = reader.widths.length + 1 →
    body.groupCount = 0 ∧ (text.head? ≠ some '?' → next.names = reader.names)

/-- A group that has been read up to its closing parenthesis leaves one part behind. -/
theorem Encloses.leaves {reader inner : Reader} {text : Text} (encloses : Encloses reader text inner) :
    Leaves reader text inner.frame.expr (inner.closeFrame reader.frame reader.outer) := by
  have item : inner.closedItem = .part (.group (reader.widths.length + 1) inner.frame.expr) := by
    simp only [Reader.closedItem, encloses.kind]
  have widths : (inner.closeFrame reader.frame reader.outer).widths.length =
      inner.widths.length := by
    simp [Reader.closeFrame, encloses.kind]
  refine ⟨?_, rfl, ?_, encloses.names, encloses.marked, fun same => ?_⟩
  · simp only [Reader.closeFrame, item]
    rfl
  · rw [widths]
    exact encloses.widths
  · obtain ⟨free, names⟩ := encloses.quiet (widths ▸ same)
    exact ⟨free.parts.sequence, names⟩

/-- A group that remembers what it matches is read as one part. -/
theorem reaches_group {source text rest : Text} {flags : Flags} {reader : Reader}
    {position index : Nat}
    (opens : (start source flags).Reaches (facing reader position ('(' :: (text ++ ')' :: rest))))
    (older : ∀ frame ∈ reader.frame :: reader.outer, frame.start < position)
    (captures : Captures source flags index (position, position + 1 + text.length)) :
    index = reader.widths.length + 1 ∧ ∃ body next, Leaves reader text body next ∧
      (start source flags).Reaches (facing next (position + 1 + text.length + 1) rest) := by
  obtain ⟨number, inner, encloses, reaches⟩ := exists_encloses opens older captures
  exact ⟨number, _, _, encloses.leaves,
    reaches.trans (Reader.reaches_close rest _ encloses.outer)⟩

end Scan

end RoutePattern.Regex
