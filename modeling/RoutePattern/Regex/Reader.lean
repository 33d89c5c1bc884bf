import RoutePattern.Regex.Alternation
import RoutePattern.Regex.FlagReader
import RoutePattern.Regex.SetReader
import RoutePattern.Unicode.Identifier

/-!
# Reading regular expressions

The reader takes the tokens of a source from left to right. It keeps a stack of the groups that
are open, each with its finished branches and the items of the branch that is being read. What
spans several tokens (escapes, sets, counts, the heads of groups) is read at once, and the tokens
it spans are skipped. The first fault from the left is reported.
-/
namespace RoutePattern.Regex

/-- What a group will become when it is closed. -/
inductive FrameKind where
  /-- The whole expression, which is never closed. -/
  | whole
  | capture (index : Nat)
  /-- A group that only holds its contents together. -/
  | plain
  | flagged (change : FlagChange)
  | atomic
  | ahead (negated : Bool)
  /-- A look-behind, which may stand inside another one. -/
  | behind (negated outermost : Bool)
  | conditional (index : Nat)
  deriving Repr, DecidableEq

/-- An item of a branch. -/
inductive Item where
  | part (expr : Expr)
  /-- The contents of a plain group, which join the branch around it unless they are repeated as a
  whole. -/
  | enclosed (parts : List Expr)
  deriving Repr, DecidableEq

namespace Item

/-- The parts that an item adds to its branch. -/
def parts : Item → List Expr
  | part expr => [expr]
  | enclosed parts => parts

end Item

/-- A group that is open. -/
structure Frame where
  kind : FrameKind
  /-- The position of its parenthesis. -/
  start : Nat
  /-- Blanks and comments count for nothing. -/
  verbose : Bool
  /-- Finished branches, latest first. -/
  branches : List (List Expr)
  /-- Items of the branch that is being read, latest first. -/
  items : List Item
  deriving Repr, DecidableEq

namespace Frame

/-- The branch that is being read. -/
def branch (frame : Frame) : List Expr := frame.items.reverse.flatMap Item.parts

/-- All branches. -/
def parts (frame : Frame) : List Expr :=
  Expr.alternation (frame.branches.reverse ++ [frame.branch])

/-- All branches as one expression. -/
def expr (frame : Frame) : Expr := Expr.sequence frame.parts

end Frame

/-- The reader between two tokens. -/
structure Reader where
  /-- Flags of the whole expression. -/
  flags : Flags
  /-- Alphabets that flags of the whole expression have named. -/
  alphabets : List FlagName
  /-- Names of groups with their numbers. -/
  names : List (Text × Nat)
  /-- The widths of the groups so far, from the first on; a group that is open has none. -/
  widths : List (Option Width)
  /-- Groups that a condition refers to by number, with the position of their first mention. -/
  references : List (Nat × Nat)
  /-- Inside a look-behind, the number of the first group that it defines itself. -/
  behindLimit : Option Nat
  /-- The innermost open group. -/
  frame : Frame
  /-- The groups around it, innermost first. -/
  outer : List Frame
  deriving Repr, DecidableEq

namespace Reader

/-- The reader in front of a source. -/
def start (flags : Flags) : Reader where
  flags := flags
  alphabets := []
  names := []
  widths := []
  references := []
  behindLimit := none
  frame := ⟨.whole, 0, flags.verbose, [], []⟩
  outer := []

/-- One more item in the branch that is being read. -/
def push (reader : Reader) (expr : Expr) : Reader :=
  { reader with frame := { reader.frame with items := .part expr :: reader.frame.items } }

/-- One more group is open. -/
def openFrame (reader : Reader) (kind : FrameKind) (start : Nat) (verbose : Bool) : Reader :=
  { reader with
    frame := ⟨kind, start, verbose, [], []⟩
    outer := reader.frame :: reader.outer }

/-- The widths of the groups; a group that is open counts as empty. -/
def knownWidths (reader : Reader) : List Width := reader.widths.map (·.getD ⟨0, 0⟩)

/-- A group has been opened and closed. -/
def isClosed (reader : Reader) (index : Nat) : Bool :=
  (reader.widths[index - 1]?.getD none).isSome

/-- Refuses a reference to a group from inside a look-behind that defines the group itself. -/
def checkBehind (reader : Reader) (index : Nat) (cursor : Cursor) : Except Refusal Unit :=
  match reader.behindLimit with
  | none => .ok ()
  | some limit =>
    if !reader.isClosed index then cursor.fail .openGroupReference cursor.position
    else if limit ≤ index then cursor.fail .lookbehindGroupReference cursor.position
    else .ok ()

/-- The next branch of the innermost group. -/
def nextBranch (reader : Reader) : Reader :=
  { reader with
    frame := { reader.frame with
      branches := reader.frame.branch :: reader.frame.branches
      items := [] } }

/-- What a closed group adds to the branch around it. -/
def closedItem (reader : Reader) : Item :=
  let frame := reader.frame
  let body := frame.expr
  match frame.kind with
  | .whole | .plain => .enclosed frame.parts
  | .capture index => .part (.group index body)
  | .flagged change => .part (.flagged change body)
  | .atomic => .part (.atomic body)
  | .ahead negated => .part (.ahead negated body)
  | .behind negated _ => .part (.behind negated (body.width reader.knownWidths) body)
  | .conditional index =>
    match frame.branches with
    | [] => .part (.ifGroup index (.sequence frame.branch) .empty)
    | yes :: _ => .part (.ifGroup index (.sequence yes) (.sequence frame.branch))

/-- Closes the innermost group; none is open inside the whole expression. -/
def closeFrame (reader : Reader) (outermost : Frame) (outer : List Frame) : Reader :=
  let item := reader.closedItem
  let widths :=
    match reader.frame.kind with
    | .capture index =>
      reader.widths.set (index - 1) (some (reader.frame.expr.width reader.knownWidths))
    | _ => reader.widths
  let behindLimit :=
    match reader.frame.kind with
    | .behind _ true => none
    | _ => reader.behindLimit
  { reader with
    widths := widths
    behindLimit := behindLimit
    frame := { outermost with items := item :: outermost.items }
    outer := outer }

/-! ## Escapes -/

/-- A reference to a group. -/
def readReference (reader : Reader) (index start width : Nat) (after : Cursor) :
    Except Refusal (Reader × Cursor) :=
  if reader.widths.length < index then
    after.fail (.invalidGroupReference index) (after.position - (width - 1))
  else if !reader.isClosed index then after.fail .openGroupReference start
  else do
    reader.checkBehind index after
    pure (reader.push (.again index), after)

/-- An escape that starts with a digit other than zero: three octal digits are a code point, and
one or two digits are the number of a group. -/
def readNumberEscape (reader : Reader) (digit : Char) (start : Nat) (cursor : Cursor) :
    Except Refusal (Reader × Cursor) :=
  let (second, afterSecond) := cursor.takeWhile Char.isDigit 1
  let (third, afterThird) := afterSecond.takeWhile isOctal 1
  let digits := digit :: second ++ third
  if digits.length == 3 && digits.all isOctal then
    let code := octalNumber digits
    if 0o377 < code then afterThird.fail (.octalOutOfRange ('\\' :: digits)) start
    else .ok (reader.push (.char code), afterThird)
  else
    let digits := digit :: second
    reader.readReference (Decimal.digitsToNat digits) start (digits.length + 1) afterSecond

/-- The condition on a place that a letter stands for after a backslash. -/
def anchorEscape? : Char → Option Anchor
  | 'A' => some .textStart
  | 'Z' => some .textEnd
  | 'b' => some .wordEdge
  | 'B' => some .wordInside
  | _ => none

/-- An escape outside of sets. -/
def readEscape (reader : Reader) (letter : Char) (start : Nat) (cursor : Cursor) :
    Except Refusal (Reader × Cursor) :=
  match anchorEscape? letter, categoryEscape? letter, controlEscape? letter with
  | some anchor, _, _ => .ok (reader.push (.anchor anchor), cursor)
  | none, some item, _ => .ok (reader.push (.set false [item]), cursor)
  | none, none, some code => .ok (reader.push (.char code), cursor)
  | none, none, none =>
    match readCodeEscape? letter start cursor with
    | some result => result.map fun (code, after) => (reader.push (.char code), after)
    | none =>
      if letter == '0' then
        let (digits, after) := cursor.takeWhile isOctal 2
        .ok (reader.push (.char (octalNumber digits)), after)
      else if letter.isDigit then reader.readNumberEscape letter start cursor
      else (readPlainEscape letter start cursor).map fun code => (reader.push (.char code), cursor)

/-! ## Repetitions -/

/-- The bound from which on a count of repetitions is too large. -/
def countLimit : Nat := 4294967295

/-- A count of repetitions. -/
def readCount (digits : Text) (after : Cursor) : Except Refusal Nat :=
  if Decimal.digitLimit < digits.length then after.refuse (.tooManyDigits digits.length)
  else
    let count := Decimal.digitsToNat digits
    if countLimit ≤ count then after.refuse .repetitionTooLarge else .ok count

/-- The digits of the two counts between braces, the second of which is the first where there is
no comma, and the cursor after the closing brace. None stands for braces that are no counts. -/
def braceCounts? (cursor : Cursor) : Option (Text × Text × Cursor) :=
  if cursor.startsWith '\x7d' then none
  else
    let (least, after) := cursor.takeWhile Char.isDigit cursor.tokens.length
    let (most, after) :=
      if after.startsWith ',' then after.next.takeWhile Char.isDigit cursor.tokens.length
      else (least, after)
    if after.startsWith '\x7d' then some (least, most, after.next) else none

/-- The latest item repeated. The cursor stands after the quantifier at `position`, before the
sign that changes its appetite. -/
def repeatLatest (reader : Reader) (least : Nat) (most : Option Nat) (position : Nat)
    (cursor : Cursor) : Except Refusal (Reader × Cursor) :=
  match reader.frame.items with
  | [] | .part (.anchor _) :: _ => cursor.fail .nothingToRepeat position
  | .part (.loop ..) :: _ => cursor.fail .multipleRepeat position
  | item :: items =>
    let (appetite, after) : Appetite × Cursor :=
      if cursor.startsWith '?' then (.lazy, cursor.next)
      else if cursor.startsWith '+' then (.possessive, cursor.next)
      else (.greedy, cursor)
    let loop : Item := .part (.loop least most appetite (.sequence item.parts))
    .ok ({ reader with frame := { reader.frame with items := loop :: items } }, after)

/-- A quantifier of braces, or a brace that stands for itself. -/
def readBraces (reader : Reader) (position : Nat) (cursor : Cursor) :
    Except Refusal (Reader × Cursor) :=
  match braceCounts? cursor with
  | none => .ok (reader.push (.char '\x7b'.toNat), cursor)
  | some (leastDigits, mostDigits, after) => do
    let least ← if leastDigits.isEmpty then pure 0 else readCount leastDigits after
    let most ← if mostDigits.isEmpty then pure none else some <$> readCount mostDigits after
    if most.any (· < least) then after.fail .repeatBoundsReversed cursor.position
    else reader.repeatLatest least most position after

/-! ## Groups -/

/-- The count of groups that no expression reaches. -/
def groupLimit : Nat := 1073741823

/-- One more group that remembers what it matches. -/
def openCapture (reader : Reader) (start : Nat) : Reader :=
  let index := reader.widths.length + 1
  { reader with widths := reader.widths ++ [none] }.openFrame (.capture index) start
    reader.frame.verbose

/-- A group with a name; the cursor stands after the opening angle bracket. -/
def openNamed (reader : Reader) (start : Nat) (cursor : Cursor) :
    Except Refusal (Reader × Cursor) := do
  let (name, after) ← Cursor.readName '>' "group name" [] cursor.tokens cursor.position
  let index := reader.widths.length + 1
  if !Unicode.isIdentifier name then after.fail (.badGroupName name) cursor.position
  else match reader.names.lookup name with
    | some earlier => after.fail (.redefinedGroupName name index earlier) cursor.position
    | none =>
      pure ({ reader with names := reader.names ++ [(name, index)] }.openCapture start, after)

/-- A reference to a group by name; the cursor stands after the equals sign. -/
def readNamedReference (reader : Reader) (cursor : Cursor) :
    Except Refusal (Reader × Cursor) := do
  let (name, after) ← Cursor.readName ')' "group name" [] cursor.tokens cursor.position
  if !Unicode.isIdentifier name then after.fail (.badGroupName name) cursor.position
  else match reader.names.lookup name with
    | none => after.fail (.unknownGroupName name) cursor.position
    | some index =>
      if !reader.isClosed index then after.fail .openGroupReference cursor.position
      else do
        reader.checkBehind index after
        pure (reader.push (.again index), after)

/-- The number of a group that a condition refers to, and the reader that knows of it. -/
def conditionGroup (reader : Reader) (name : Text) (position : Nat) (after : Cursor) :
    Except Refusal (Nat × Reader) :=
  if Unicode.isIdentifier name then
    match reader.names.lookup name with
    | none => after.fail (.unknownGroupName name) position
    | some index => .ok (index, reader)
  else match Decimal.readInt name with
    | .ok (.ofNat index) =>
      if index = 0 then after.fail .badGroupNumber position
      else if groupLimit ≤ index then after.fail (.invalidGroupReference index) position
      else if (reader.references.lookup index).isSome then .ok (index, reader)
      else .ok (index, { reader with references := reader.references ++ [(index, position)] })
    | _ => after.fail (.badGroupName name) position

/-- A condition on a group; the cursor stands after the second parenthesis. -/
def openConditional (reader : Reader) (start : Nat) (cursor : Cursor) :
    Except Refusal (Reader × Cursor) := do
  let (name, after) ← Cursor.readName ')' "group name" [] cursor.tokens cursor.position
  let (index, reader) ← reader.conditionGroup name cursor.position after
  reader.checkBehind index after
  pure (reader.openFrame (.conditional index) start reader.frame.verbose, after)

/-- A look-behind. -/
def openBehind (reader : Reader) (negated : Bool) (start : Nat) : Reader :=
  let outermost := reader.behindLimit.isNone
  { reader with
    behindLimit := some (reader.behindLimit.getD (reader.widths.length + 1)) }.openFrame
      (.behind negated outermost) start reader.frame.verbose

/-- The cursor after a comment, which the next closing parenthesis ends. -/
def skipComment (start : Nat) : List Token → (position : Nat) → Except Refusal Cursor
  | [], position => Cursor.fail ⟨[], position⟩ .unterminatedComment start
  | .dangling :: tokens, position =>
    Cursor.fail ⟨.dangling :: tokens, position⟩ .danglingEscape position
  | token :: tokens, position =>
    if token == .plain ')' then .ok ⟨tokens, position + token.width⟩
    else skipComment start tokens (position + token.width)

/-- Flags after an opening parenthesis. Flags of the whole expression have to come first. -/
def openFlags (reader : Reader) (first : Option FlagName) (start : Nat) (cursor : Cursor) :
    Except Refusal (Reader × Cursor) := do
  let (flags, after) ← readFlags first cursor
  match flags with
  | .part change =>
    let verbose :=
      (reader.frame.verbose || change.on.contains .verbose) && !change.off.contains .verbose
    pure (reader.openFrame (.flagged change) start verbose, after)
  | .whole on =>
    if !reader.outer.isEmpty || !reader.frame.branches.isEmpty || !reader.frame.items.isEmpty then
      after.fail .misplacedGlobalFlags start
    else
      let flags := on.foldl Flags.turnOn reader.flags
      pure ({ reader with
        flags := flags
        alphabets := reader.alphabets ++ on.filter FlagName.isAlphabet
        frame := { reader.frame with verbose := flags.verbose } }, after)

/-- A look-behind or an unknown extension; the cursor stands after the angle bracket. -/
def openAngle (reader : Reader) (start : Nat) (cursor : Cursor) :
    Except Refusal (Reader × Cursor) :=
  match cursor.tokens with
  | [] => cursor.fail .unexpectedEnd cursor.position
  | .plain '=' :: _ => .ok (reader.openBehind false start, cursor.next)
  | .plain '!' :: _ => .ok (reader.openBehind true start, cursor.next)
  | .dangling :: _ => cursor.fail .danglingEscape cursor.position
  | token :: _ => cursor.next.fail (.unknownExtension ('?' :: '<' :: token.text)) (start + 1)

/-- A named group, a reference by name, or an unknown extension; the cursor stands after the
letter. -/
def openLettered (reader : Reader) (start : Nat) (cursor : Cursor) :
    Except Refusal (Reader × Cursor) :=
  match cursor.tokens with
  | [] => cursor.fail .unexpectedEnd cursor.position
  | .plain '<' :: _ => reader.openNamed start cursor.next
  | .plain '=' :: _ => reader.readNamedReference cursor.next
  | .dangling :: _ => cursor.fail .danglingEscape cursor.position
  | token :: _ => cursor.next.fail (.unknownExtension ('?' :: 'P' :: token.text)) (start + 1)

/-- A group with a question mark; the cursor stands after the mark. -/
def openExtension (reader : Reader) (start : Nat) (cursor : Cursor) :
    Except Refusal (Reader × Cursor) :=
  let verbose := reader.frame.verbose
  match cursor.tokens with
  | [] => cursor.fail .unexpectedEnd cursor.position
  | .plain 'P' :: _ => reader.openLettered start cursor.next
  | .plain ':' :: _ => .ok (reader.openFrame .plain start verbose, cursor.next)
  | .plain '#' :: tokens =>
    (skipComment start tokens cursor.next.position).map fun after => (reader, after)
  | .plain '=' :: _ => .ok (reader.openFrame (.ahead false) start verbose, cursor.next)
  | .plain '!' :: _ => .ok (reader.openFrame (.ahead true) start verbose, cursor.next)
  | .plain '<' :: _ => reader.openAngle start cursor.next
  | .plain '(' :: _ => reader.openConditional start cursor.next
  | .plain '>' :: _ => .ok (reader.openFrame .atomic start verbose, cursor.next)
  | .plain '-' :: _ => reader.openFlags none start cursor.next
  | .dangling :: _ => cursor.fail .danglingEscape cursor.position
  | token :: _ =>
    match flagOf? token with
    | some flag => reader.openFlags (some flag) start cursor.next
    | none => cursor.next.fail (.unknownExtension ('?' :: token.text)) (start + 1)

/-- A group; the cursor stands after its parenthesis. -/
def openGroup (reader : Reader) (start : Nat) (cursor : Cursor) :
    Except Refusal (Reader × Cursor) :=
  if cursor.startsWith '?' then reader.openExtension start cursor.next
  else .ok (reader.openCapture start, cursor)

/-! ## Tokens -/

/-- The cursor after a comment that ends with its line. -/
def skipLine : List Token → (position : Nat) → Cursor
  | [], position => ⟨[], position⟩
  | .dangling :: tokens, position => ⟨.dangling :: tokens, position⟩
  | token :: tokens, position =>
    if token == .plain '\n' then ⟨tokens, position + token.width⟩
    else skipLine tokens (position + token.width)

/-- One character outside of sets and escapes. -/
def readChar (reader : Reader) (c : Char) (position : Nat) (cursor : Cursor) :
    Except Refusal (Reader × Cursor) :=
  if reader.frame.verbose && Unicode.isAsciiBlank c.toNat then .ok (reader, cursor)
  else if reader.frame.verbose && c == '#' then
    .ok (reader, skipLine cursor.tokens cursor.position)
  else if c == '[' then do
    let (expr, after) ← readSet position cursor
    pure (reader.push expr, after)
  else if c == '?' then reader.repeatLatest 0 (some 1) position cursor
  else if c == '*' then reader.repeatLatest 0 none position cursor
  else if c == '+' then reader.repeatLatest 1 none position cursor
  else if c == '\x7b' then reader.readBraces position cursor
  else if c == '.' then .ok (reader.push .any, cursor)
  else if c == '(' then reader.openGroup position cursor
  else if c == '^' then .ok (reader.push (.anchor .lineStart), cursor)
  else if c == '$' then .ok (reader.push (.anchor .lineEnd), cursor)
  else .ok (reader.push (.char c.toNat), cursor)

/-- A bar: the next branch, unless a condition has both of its branches. -/
def readBar (reader : Reader) (position : Nat) (cursor : Cursor) :
    Except Refusal (Reader × Cursor) :=
  match reader.frame.kind, reader.frame.branches with
  | .conditional _, _ :: _ => .error (.fault .extraConditionalBranch (some position))
  | _, _ => .ok (reader.nextBranch, cursor)

/-- Flags of the whole expression must not name two alphabets. -/
def checkAlphabets (reader : Reader) : Except Refusal Unit :=
  if reader.alphabets.contains .ascii && reader.alphabets.contains .unicode then
    .error .conflictingAlphabets
  else .ok ()

/-- A closing parenthesis. One that closes no group ends the expression, and what is amiss with the
whole expression comes first. -/
def readClosing (reader : Reader) (position : Nat) (cursor : Cursor) :
    Except Refusal (Reader × Cursor) :=
  match reader.outer with
  | [] => do
    reader.checkAlphabets
    .error (.fault .unbalancedParenthesis (some position))
  | outermost :: outer => .ok (reader.closeFrame outermost outer, cursor)

/-- One token, with the cursor after it. -/
def readToken (reader : Reader) (token : Token) (position : Nat) (cursor : Cursor) :
    Except Refusal (Reader × Cursor) :=
  match token with
  | .escaped c => reader.readEscape c position cursor
  | .dangling => .error (.fault .danglingEscape (some position))
  | .plain '|' => reader.readBar position cursor
  | .plain ')' => reader.readClosing position cursor
  | .plain c => reader.readChar c position cursor

/-- The end of the source: every group has to be closed. -/
def finish (reader : Reader) : Except Refusal Reader := do
  if reader.outer.isEmpty then
    reader.checkAlphabets
    pure reader
  else .error (.fault .unterminatedGroup (some reader.frame.start))

/-- The reader after all tokens. The first `skip` tokens belong to what has been read. -/
def readTokens : List Token → (skip position : Nat) → Reader → Except Refusal Reader
  | [], _, _, reader => reader.finish
  | .dangling :: _, _, position, _ => .error (.fault .danglingEscape (some position))
  | token :: tokens, skip + 1, position, reader =>
    readTokens tokens skip (position + token.width) reader
  | token :: tokens, 0, position, reader => do
    let (reader, cursor) ← reader.readToken token position ⟨tokens, position + token.width⟩
    readTokens tokens (tokens.length - cursor.tokens.length) (position + token.width) reader

end Reader

end RoutePattern.Regex
