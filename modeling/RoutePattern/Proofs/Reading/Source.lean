import Mathlib.Tactic.FinCases
import RoutePattern.Pattern.Compiled
import RoutePattern.Proofs.Reading.Scan

/-!
# Reading the source of a route

The source of a route is put together from a few kinds of text. Each of them is read into parts of
the branch that is being read, whatever stands before it and, as long as no sign that changes the
appetite of a repetition follows, whatever comes after it (`Reads`): the scan in front of the text
reaches the one behind it. Texts one after the other are
read into their parts one after the other, so the expression of a route can be read off its source.
-/
namespace RoutePattern.Regex

/-- A text does not start with a sign that changes the appetite of a repetition. -/
def StartsUnsigned (text : Text) : Prop := text.head? ≠ some '?' ∧ text.head? ≠ some '+'

instance (text : Text) : Decidable (StartsUnsigned text) :=
  inferInstanceAs (Decidable (text.head? ≠ some '?' ∧ text.head? ≠ some '+'))

/-- What comes after a text that is not empty decides nothing about its start. -/
theorem StartsUnsigned.append {text rest : Text} (one : StartsUnsigned text)
    (two : StartsUnsigned rest) : StartsUnsigned (text ++ rest) := by
  cases text with
  | nil => exact two
  | cons c text => exact one

namespace Token

/-- The character that a text starts with is no backslash if the text is neither a lone backslash nor
starts with an escape. -/
theorem ne_backslash {c : Char} {rest : Text} (alone : c = '\\' → rest = [] → False)
    (bare : ∀ d later, c = '\\' → rest = d :: later → False) : c ≠ '\\' := by
  rintro rfl
  cases rest with
  | nil => exact alone rfl rfl
  | cons d later => exact bare d later rfl rfl

/-- A character other than the backslash is a token by itself. -/
theorem ofText_cons {c : Char} (plain : c ≠ '\\') (rest : Text) :
    ofText (c :: rest) = .plain c :: ofText rest := by
  rw [ofText] <;> simp [plain]

/-- A backslash and the character after it are one token. -/
theorem ofText_escape (c : Char) (rest : Text) :
    ofText ('\\' :: c :: rest) = .escaped c :: ofText rest := by
  rw [ofText]

/-- The first token of a text is a plain character only if the text starts with it. -/
theorem head?_ofText_ne {c : Char} {text : Text} (other : text.head? ≠ some c) :
    (ofText text).head? ≠ some (.plain c) := by
  fun_cases ofText text with
  | case1 => simp
  | case2 => simp
  | case3 d rest => simp
  | case4 d rest => simpa using other

end Token

namespace Reader

open Scan (facing next?_read Reaches)

/-- More parts in the branch that is being read. -/
def append (reader : Reader) (parts : List Expr) : Reader :=
  { reader with frame := { reader.frame with
      items := (parts.map Item.part).reverse ++ reader.frame.items } }

/-- One more item in the branch that is being read. -/
def addItem (reader : Reader) (item : Item) : Reader :=
  { reader with frame := { reader.frame with items := item :: reader.frame.items } }

/-- More groups that have been opened. -/
def widen (reader : Reader) (widths : List (Option Width)) : Reader :=
  { reader with widths := reader.widths ++ widths }

@[simp] theorem append_append (reader : Reader) (one two : List Expr) :
    (reader.append one).append two = reader.append (one ++ two) := by
  simp [append]

@[simp] theorem widen_nil (reader : Reader) : reader.widen [] = reader := by
  simp [widen]

@[simp] theorem widen_widen (reader : Reader) (one two : List (Option Width)) :
    (reader.widen one).widen two = reader.widen (one ++ two) := by
  simp [widen]

@[simp] theorem widths_append (reader : Reader) (parts : List Expr) :
    (reader.append parts).widths = reader.widths := rfl

@[simp] theorem widths_widen (reader : Reader) (widths : List (Option Width)) :
    (reader.widen widths).widths = reader.widths ++ widths := rfl

/-- New groups and new parts come in either order. -/
theorem widen_append (reader : Reader) (parts : List Expr) (widths : List (Option Width)) :
    (reader.append parts).widen widths = (reader.widen widths).append parts := rfl

/-- One more item is one more part. -/
theorem push_eq_append (reader : Reader) (expr : Expr) : reader.push expr = reader.append [expr] :=
  rfl

/-! ## Single tokens -/

/-- Characters other than backslashes are tokens by themselves. -/
theorem ofText_append {text : Text} (plain : '\\' ∉ text) (rest : Text) :
    Token.ofText (text ++ rest) = text.map .plain ++ Token.ofText rest := by
  induction text with
  | nil => rfl
  | cons c text ih =>
    have bare : c ≠ '\\' := (List.ne_of_not_mem_cons plain).symm
    rw [List.cons_append, Token.ofText_cons bare, ih (List.not_mem_of_not_mem_cons plain)]
    rfl

/-- What has been read with an earlier character is passed over. -/
theorem reaches_passed (reader : Reader) (text : Text) (tokens : List Token) (position : Nat) :
    Reaches ⟨reader, text.map .plain ++ tokens, text.length, position⟩
      ⟨reader, tokens, 0, position + text.length⟩ := by
  induction text generalizing position with
  | nil => exact .refl
  | cons c text ih =>
    have later := ih (position + 1)
    rw [Nat.add_assoc, Nat.add_comm 1] at later
    exact .head rfl later

/-- A character is read together with some of those after it. -/
theorem reaches_taking {reader next : Reader} {c : Char} {taken rest : Text} {position : Nat}
    {cursor : Cursor} (plain : '\\' ∉ c :: taken)
    (read : reader.readToken (.plain c) position ⟨Token.ofText (taken ++ rest), position + 1⟩ =
      .ok (next, cursor)) (left : cursor.tokens = Token.ofText rest) :
    (facing reader position (c :: (taken ++ rest))).Reaches
      (facing next (position + 1 + taken.length) rest) := by
  have cut := ofText_append (List.not_mem_of_not_mem_cons plain) rest
  have bare : c ≠ '\\' := (List.ne_of_not_mem_cons plain).symm
  refine .head (b := ⟨next, taken.map .plain ++ Token.ofText rest, taken.length, position + 1⟩) ?_
    (reaches_passed next taken (Token.ofText rest) (position + 1))
  have first : Token.ofText (c :: (taken ++ rest)) = .plain c :: Token.ofText (taken ++ rest) :=
    Token.ofText_cons bare _
  rw [cut] at read
  simp only [facing, first, Scan.next?, Token.width, read, left, cut, List.length_append,
    List.length_map, Nat.add_sub_cancel]

/-- A character that is read by itself takes no character after it along. -/
theorem reaches_read {reader next : Reader} {c : Char} {rest : Text} {position : Nat}
    (bare : c ≠ '\\') (read : reader.readToken (.plain c) position
      ⟨Token.ofText rest, position + 1⟩ = .ok (next, ⟨Token.ofText rest, position + 1⟩)) :
    (facing reader position (c :: rest)).Reaches (facing next (position + 1) rest) := by
  have alone : '\\' ∉ [c] := by simpa using bare.symm
  exact reaches_taking alone read rfl

/-- A blank has a meaning in regular expressions. -/
theorem not_blank_of_not_special {c : Char} (plain : regexSpecials.contains c = false) :
    Unicode.isAsciiBlank c.toNat = false := by
  have special : ∀ code ∈ [9, 10, 11, 12, 13, 32],
      regexSpecials.contains (Char.ofNat code) = true := by decide
  by_contra blank
  rw [Bool.not_eq_false, Unicode.isAsciiBlank] at blank
  have known : c.toNat ∈ [9, 10, 11, 12, 13, 32] := by
    simp only [Bool.or_eq_true, beq_iff_eq, Bool.and_eq_true, decide_eq_true_eq] at blank
    simp only [List.mem_cons, List.not_mem_nil, or_false]
    omega
  have same := special c.toNat known
  rw [Char.ofNat_toNat, plain] at same
  exact absurd same Bool.false_ne_true

/-- A letter that no regular expression gives a meaning stands for itself. -/
theorem reaches_literal {c : Char} (plain : regexSpecials.contains c = false) (rest : Text)
    (position : Nat) (reader : Reader) :
    (facing reader position (c :: rest)).Reaches
      (facing (reader.push (.char c.toNat)) (position + 1) rest) := by
  have ne (d : Char) (special : regexSpecials.contains d = true) : c ≠ d := by
    rintro rfl
    rw [special] at plain
    exact absurd plain (by decide)
  apply reaches_read (ne '\\' (by decide))
  have bar := ne '|' (by decide)
  have closing := ne ')' (by decide)
  have shown := not_blank_of_not_special plain
  simp [readToken, readChar, shown, ne '#' (by decide), ne '[' (by decide), ne '?' (by decide), ne '*' (by decide),
    ne '+' (by decide), ne '\x7b' (by decide), ne '.' (by decide), ne '(' (by decide),
    ne '^' (by decide), ne '$' (by decide)]

/-- A special letter after a backslash stands for itself. -/
theorem reaches_escaped {c : Char} (special : regexSpecials.contains c = true) (rest : Text)
    (position : Nat) (reader : Reader) :
    (facing reader position ('\\' :: c :: rest)).Reaches
      (facing (reader.push (.char c.toNat)) (position + 2) rest) := by
  apply Relation.ReflTransGen.single
  rw [facing, Token.ofText_escape]
  apply next?_read (by simp)
  have all : ∀ d ∈ regexSpecials, ∀ start cursor,
      reader.readEscape d start cursor = .ok (reader.push (.char d.toNat), cursor) := by
    intro d found start cursor
    fin_cases found <;> rfl
  exact all c (List.contains_iff_mem.1 special) _ _

/-- A parenthesis that no question mark follows opens a group. -/
theorem readToken_open {reader : Reader} {cursor : Cursor} (position : Nat)
    (bare : cursor.startsWith '?' = false) :
    reader.readToken (.plain '(') position cursor = .ok (reader.openCapture position, cursor) := by
  simp [readToken, readChar, Unicode.isAsciiBlank, openGroup, bare]

/-- A text that does not start with a character is not a cursor in front of it. -/
theorem startsWith_facing {c : Char} {text : Text} (other : text.head? ≠ some c) (position : Nat) :
    (⟨Token.ofText text, position⟩ : Cursor).startsWith c = false := by
  simpa [Cursor.startsWith] using Token.head?_ofText_ne other

/-- A parenthesis opens a group. -/
theorem reaches_open {rest : Text} (bare : rest.head? ≠ some '?') (position : Nat)
    (reader : Reader) :
    (facing reader position ('(' :: rest)).Reaches
      (facing (reader.openCapture position) (position + 1) rest) := by
  exact reaches_read (by decide) (readToken_open position (startsWith_facing bare _))

/-- A parenthesis with a question mark and a colon opens a plain group, and one with a question
mark and an equals sign a look ahead. -/
theorem reaches_openFrame {sign : Char} {kind : FrameKind}
    (known : sign = ':' ∧ kind = .plain ∨ sign = '=' ∧ kind = .ahead false) (rest : Text)
    (position : Nat) (reader : Reader) :
    (facing reader position ('(' :: '?' :: sign :: rest)).Reaches
      (facing (reader.openFrame kind position reader.frame.verbose) (position + 3) rest) := by
  have plain : '\\' ∉ ['(', '?', sign] := by
    rcases known with ⟨rfl, -⟩ | ⟨rfl, -⟩ <;> decide
  have cut := ofText_append (List.not_mem_of_not_mem_cons plain) rest
  have read : reader.readToken (.plain '(') position ⟨Token.ofText (['?', sign] ++ rest), position + 1⟩ =
      .ok (reader.openFrame kind position reader.frame.verbose,
        ⟨Token.ofText rest, position + 3⟩) := by
    rw [cut]
    rcases known with ⟨rfl, rfl⟩ | ⟨rfl, rfl⟩ <;>
      simp [readToken, readChar, Unicode.isAsciiBlank, openGroup, openExtension, Cursor.startsWith,
        Cursor.next, Token.width]
  exact reaches_taking plain read rfl

/-- A closing parenthesis closes the innermost group. -/
theorem reaches_close (rest : Text) (position : Nat) {reader : Reader} {outermost : Frame}
    {outer : List Frame} (inside : reader.outer = outermost :: outer) :
    (facing reader position (')' :: rest)).Reaches
      (facing (reader.closeFrame outermost outer) (position + 1) rest) := by
  apply reaches_read (by decide)
  simp [readToken, readClosing, inside]

/-- A question mark or an asterisk after a group repeats its contents. -/
theorem reaches_repeat {sign : Char} {most : Option Nat}
    (known : sign = '?' ∧ most = some 1 ∨ sign = '*' ∧ most = none) {rest : Text}
    (unsigned : StartsUnsigned rest) (position : Nat) (reader : Reader) {item : Item}
    (grouped : (∃ parts, item = .enclosed parts) ∨ ∃ index body, item = .part (.group index body)) :
    (facing (reader.addItem item) position (sign :: rest)).Reaches
      (facing (reader.append [.loop 0 most .greedy (.sequence item.parts)]) (position + 1)
        rest) := by
  have bare : sign ≠ '\\' := by rcases known with ⟨rfl, -⟩ | ⟨rfl, -⟩ <;> decide
  have repeated : (reader.addItem item).repeatLatest 0 most position
        ⟨Token.ofText rest, position + 1⟩ =
      .ok (reader.append [.loop 0 most .greedy (.sequence item.parts)],
        ⟨Token.ofText rest, position + 1⟩) := by
    rcases grouped with ⟨parts, rfl⟩ | ⟨index, body, rfl⟩ <;>
      simp [repeatLatest, addItem, append, startsWith_facing unsigned.1,
        startsWith_facing unsigned.2]
  apply reaches_read bare
  rcases known with ⟨rfl, rfl⟩ | ⟨rfl, rfl⟩ <;> 
    simp [readToken, readChar, Unicode.isAsciiBlank, repeated]

/-! ## Groups that are closed again -/

/-- The parts of a branch without alternatives. -/
theorem frame_parts_append (reader : Reader) (parts : List Expr)
    (fresh : reader.frame.branches = []) (empty : reader.frame.items = []) :
    (reader.append parts).frame.parts = parts := by
  simp only [append, Frame.parts, Frame.branch, fresh, empty]
  simp [Expr.alternation, List.flatMap_map, Item.parts]

/-- A group that remembers what it matches is one part, and one more group. -/
theorem closeFrame_openCapture (reader : Reader) (start : Nat) (parts : List Expr) :
    ∃ width, ((reader.openCapture start).append parts).closeFrame reader.frame reader.outer =
      (reader.widen [width]).append [.group (reader.widths.length + 1) (.sequence parts)] := by
  have inside := frame_parts_append (reader.openCapture start) parts rfl rfl
  refine ⟨some ((Expr.sequence parts).width (reader.knownWidths ++ [⟨0, 0⟩])), ?_⟩
  simp only [closeFrame, closedItem, Frame.expr, inside]
  simp [openCapture, openFrame, append, widen, knownWidths]

/-- A plain group is one item with its parts. -/
theorem closeFrame_openPlain (reader : Reader) (start : Nat) (widths : List (Option Width))
    (parts : List Expr) :
    (((reader.openFrame .plain start reader.frame.verbose).widen widths).append parts).closeFrame
        reader.frame reader.outer =
      (reader.widen widths).addItem (.enclosed parts) := by
  have inside := frame_parts_append
    ((reader.openFrame .plain start reader.frame.verbose).widen widths) parts rfl rfl
  simp only [closeFrame, closedItem, inside]
  simp [openFrame, append, widen, addItem]

/-! ## Texts that are read by themselves -/

/-- A text adds a count of groups and, numbered from there on, some parts to the branch. -/
def Reads (text : Text) (count : Nat) (parts : (before : Nat) → List Expr) : Prop :=
  ∀ (reader : Reader) (position : Nat), ∃ widths : List (Option Width), widths.length = count ∧
    ∀ rest, StartsUnsigned rest → (facing reader position (text ++ rest)).Reaches
      (facing ((reader.widen widths).append (parts reader.widths.length))
        (position + text.length) rest)

/-- A text that adds parts without groups. -/
theorem Reads.ofParts {text : Text} {parts : List Expr}
    (reads : ∀ (reader : Reader) position rest, StartsUnsigned rest →
      (facing reader position (text ++ rest)).Reaches
        (facing (reader.append parts) (position + text.length) rest)) :
    Reads text 0 fun _ => parts := by
  intro reader position
  refine ⟨[], rfl, fun rest unsigned => ?_⟩
  rw [widen_nil]
  exact reads reader position rest unsigned

/-- The empty text adds nothing. -/
theorem Reads.nil : Reads [] 0 fun _ => [] :=
  Reads.ofParts fun _ _ _ _ => .refl

/-- One text after the other adds the parts of one after those of the other. -/
theorem Reads.append {one two : Text} {count more : Nat} {parts later : Nat → List Expr}
    (first : Reads one count parts) (second : Reads two more later)
    (unsigned : StartsUnsigned two) :
    Reads (one ++ two) (count + more) fun before => parts before ++ later (before + count) := by
  intro reader position
  obtain ⟨widths, counted, reading⟩ := first reader position
  obtain ⟨others, countedOthers, readingOn⟩ := second
    ((reader.widen widths).append (parts reader.widths.length)) (position + one.length)
  refine ⟨widths ++ others, by simp [counted, countedOthers], fun rest free => ?_⟩
  have reach := (reading _ (unsigned.append free)).trans (readingOn _ free)
  rw [widen_append] at reach
  simpa [counted, Nat.add_assoc] using reach

/-- A text as an escaped literal adds its characters. -/
theorem Reads.literal (text : Text) :
    Reads (escapeRegex text) 0 fun _ => text.map fun c => .char c.toNat := by
  apply Reads.ofParts
  intro reader position rest unsigned
  induction text generalizing reader position with
  | nil => exact .refl
  | cons c text ih =>
    have later (position : Nat) := ih (reader.push (.char c.toNat)) position
    rw [push_eq_append, append_append] at later
    by_cases special : regexSpecials.contains c = true
    · have cut : escapeRegex (c :: text) = '\\' :: c :: escapeRegex text := by
        simp only [escapeRegex, List.flatMap_cons, special, if_true, List.cons_append,
          List.nil_append]
      have reach := (reaches_escaped special _ position reader).trans (later (position + 2))
      rw [cut]
      simpa [Nat.add_assoc, Nat.add_comm 2] using reach
    · have cut : escapeRegex (c :: text) = c :: escapeRegex text := by
        simp only [escapeRegex, List.flatMap_cons, special, if_false, List.cons_append,
          List.nil_append, Bool.false_eq_true]
      have plain : regexSpecials.contains c = false := by simpa using special
      have reach := (reaches_literal plain _ position reader).trans (later (position + 1))
      rw [cut]
      simpa [Nat.add_assoc, Nat.add_comm 1] using reach

/-- A lead adds its character. -/
theorem Reads.lead (lead : Option Char) :
    Reads (leadSource lead) 0 fun _ => lead.toList.map fun c => .char c.toNat :=
  Reads.literal lead.toList

/-- Text between parentheses is read as a group, whatever comes after it. -/
theorem Reads.reaches_group {text : Text} {parts : Nat → List Expr} (reads : Reads text 0 parts)
    (bare : text.head? ≠ some '?') (reader : Reader) (position : Nat) :
    ∃ width, ∀ rest, (facing reader position ('(' :: (text ++ ')' :: rest))).Reaches
      (facing ((reader.widen [width]).append
          [.group (reader.widths.length + 1) (.sequence (parts (reader.widths.length + 1)))])
        (position + 1 + text.length + 1) rest) := by
  have counted : (reader.openCapture position).widths.length = reader.widths.length + 1 := by
    simp [openCapture, openFrame]
  obtain ⟨width, closing⟩ :=
    closeFrame_openCapture reader position (parts (reader.widths.length + 1))
  refine ⟨width, fun rest => ?_⟩
  obtain ⟨widths, none, reading⟩ := reads (reader.openCapture position) (position + 1)
  have bareRest : (text ++ ')' :: rest).head? ≠ some '?' := by
    cases text <;> simp_all
  have free : StartsUnsigned (')' :: rest) := by simp [StartsUnsigned]
  rw [List.length_eq_zero_iff.1 none, widen_nil, counted] at reading
  have close : (facing ((reader.openCapture position).append (parts (reader.widths.length + 1)))
      (position + 1 + text.length) (')' :: rest)).Reaches
      (facing (((reader.openCapture position).append
        (parts (reader.widths.length + 1))).closeFrame reader.frame reader.outer)
        (position + 1 + text.length + 1) rest) :=
    reaches_close rest _ rfl
  rw [closing] at close
  exact ((reaches_open bareRest position reader).trans (reading _ free)).trans close

/-- Text between parentheses adds a group. -/
theorem Reads.group {text : Text} {parts : Nat → List Expr} (reads : Reads text 0 parts)
    (bare : text.head? ≠ some '?') :
    Reads ('(' :: text ++ [')']) 1 fun before =>
      [.group (before + 1) (.sequence (parts (before + 1)))] := by
  intro reader position
  obtain ⟨width, reach⟩ := reads.reaches_group bare reader position
  refine ⟨[width], rfl, fun rest _ => ?_⟩
  simpa [Nat.add_assoc, Nat.add_comm 1] using reach rest

/-- Text between parentheses with a question mark after it adds an optional group. -/
theorem Reads.optionalGroup {text : Text} {parts : Nat → List Expr} (reads : Reads text 0 parts)
    (bare : text.head? ≠ some '?') :
    Reads ('(' :: text ++ [')', '?']) 1 fun before =>
      [.loop 0 (some 1) .greedy
        (.sequence [.group (before + 1) (.sequence (parts (before + 1)))])] := by
  intro reader position
  obtain ⟨width, reach⟩ := reads.reaches_group bare reader position
  refine ⟨[width], rfl, fun rest unsigned => ?_⟩
  have again := reaches_repeat (.inl ⟨rfl, rfl⟩) unsigned (position + 1 + text.length + 1)
    (reader.widen [width])
    (.inr ⟨reader.widths.length + 1, .sequence (parts (reader.widths.length + 1)), rfl⟩)
  have wide : position + ('(' :: text ++ [')', '?']).length =
      position + 1 + text.length + 1 + 1 := by
    simp
    omega
  have whole : ('(' :: text ++ [')', '?']) ++ rest = '(' :: (text ++ ')' :: '?' :: rest) := by simp
  rw [wide, whole]
  exact (reach ('?' :: rest)).trans again

/-- What is read in a plain group is repeated by a question mark or an asterisk after it. -/
theorem reaches_repeated {text rest : Text} {parts : List Expr} {widths : List (Option Width)}
    {sign : Char} {most : Option Nat} {reader : Reader} {position : Nat}
    (reads : ∀ rest, StartsUnsigned rest →
      (facing (reader.openFrame .plain position reader.frame.verbose) (position + 3)
        (text ++ rest)).Reaches
      (facing (((reader.openFrame .plain position reader.frame.verbose).widen widths).append parts)
        (position + 3 + text.length) rest))
    (known : sign = '?' ∧ most = some 1 ∨ sign = '*' ∧ most = none)
    (unsigned : StartsUnsigned rest) :
    (facing reader position (['(', '?', ':'] ++ text ++ [')', sign] ++ rest)).Reaches
      (facing ((reader.widen widths).append [.loop 0 most .greedy (.sequence parts)])
        (position + (['(', '?', ':'] ++ text ++ [')', sign]).length) rest) := by
  have free : StartsUnsigned (')' :: sign :: rest) := by simp [StartsUnsigned]
  have opens := reaches_openFrame (.inl ⟨rfl, rfl⟩) (text ++ ')' :: sign :: rest) position reader
  have close : (facing (((reader.openFrame .plain position reader.frame.verbose).widen widths).append
      parts) (position + 3 + text.length) (')' :: sign :: rest)).Reaches
        (facing ((((reader.openFrame .plain position reader.frame.verbose).widen widths).append
          parts).closeFrame reader.frame reader.outer)
          (position + 3 + text.length + 1) (sign :: rest)) :=
    reaches_close _ _ rfl
  rw [closeFrame_openPlain] at close
  have again := reaches_repeat known unsigned (position + 3 + text.length + 1)
    (reader.widen widths) (.inl ⟨parts, rfl⟩)
  have reach := ((opens.trans (reads _ free)).trans close).trans again
  simpa [Item.parts, Nat.add_assoc, Nat.add_comm 2, Nat.add_comm 3] using reach

/-- Text in a plain group with a question mark or an asterisk after it is repeated. -/
theorem Reads.repeated {text : Text} {count : Nat} {parts : Nat → List Expr} {sign : Char}
    {most : Option Nat} (reads : Reads text count parts)
    (known : sign = '?' ∧ most = some 1 ∨ sign = '*' ∧ most = none) :
    Reads (['(', '?', ':'] ++ text ++ [')', sign]) count fun before =>
      [.loop 0 most .greedy (.sequence (parts before))] := by
  intro reader position
  obtain ⟨widths, counted, reading⟩ :=
    reads (reader.openFrame .plain position reader.frame.verbose) (position + 3)
  exact ⟨widths, counted, fun rest unsigned => reaches_repeated reading known unsigned⟩

/-! ## The texts of a route -/

/-- The regular expression of a segment: at least one character that is no slash, as few as
possible. -/
def segmentExpr : Expr := .loop 1 none .lazy (.sequence [.notChar '/'.toNat])

/-- The regular expression of a row of digits, as many as possible. -/
def digitsExpr : Expr := .loop 1 none .greedy (.sequence [.set false [.category .digit false]])

/-- The regular expression for an optional slash at the very end. -/
def optionalSlashExpr : Expr :=
  .loop 0 (some 1) .greedy
    (.sequence [.char '/'.toNat, .ahead false (.sequence [.anchor .lineEnd])])

/-- The regular expression for the end of a segment. -/
def segmentEndExpr : Expr :=
  .ahead false (.sequence [.alt (.sequence [.char '/'.toNat]) (.sequence [.anchor .lineEnd])])

/-- The standard regular expression after a slash matches a segment. -/
theorem Reads.segment : Reads "[^/]+?".toList 0 fun _ => [segmentExpr] := by
  apply Reads.ofParts
  intro reader position rest unsigned
  have set : reader.readToken (.plain '[') position
        ⟨Token.ofText (['^', '/', ']'] ++ '+' :: '?' :: rest), position + 1⟩ =
      .ok (reader.push (.notChar '/'.toNat), ⟨Token.ofText ('+' :: '?' :: rest), position + 4⟩) := by
    simp [Token.ofText, readToken, readChar, Unicode.isAsciiBlank, readSet, readSetItems, readSetItem,
      Cursor.startsWith, Cursor.next, Token.width, bind, Except.bind, pure, Except.pure,
      List.eraseDups_cons]
  have more : (reader.push (.notChar '/'.toNat)).readToken (.plain '+') (position + 4)
        ⟨Token.ofText (['?'] ++ rest), position + 5⟩ =
      .ok (reader.append [segmentExpr], ⟨Token.ofText rest, position + 6⟩) := by
    simp [Token.ofText, readToken, readChar, push, Unicode.isAsciiBlank, repeatLatest, Cursor.startsWith,
      Cursor.next, Token.width, Reader.append, Item.parts, segmentExpr]
  exact (reaches_taking (by decide) set rfl).trans (reaches_taking (by decide) more rfl)

/-- An escaped `d` with a plus sign matches a row of digits. -/
theorem Reads.digits : Reads "\\d+".toList 0 fun _ => [digitsExpr] := by
  apply Reads.ofParts
  intro reader position rest unsigned
  have digit : (facing reader position ('\\' :: 'd' :: '+' :: rest)).Reaches
      (facing (reader.push (.set false [.category .digit false])) (position + 2) ('+' :: rest)) := by
    apply Relation.ReflTransGen.single
    rw [facing, Token.ofText_escape]
    apply next?_read (by simp)
    rfl
  have more : (reader.push (.set false [.category .digit false])).readToken (.plain '+')
        (position + 2) ⟨Token.ofText rest, position + 3⟩ =
      .ok (reader.append [digitsExpr], ⟨Token.ofText rest, position + 3⟩) := by
    simp [readToken, readChar, push, Unicode.isAsciiBlank, repeatLatest, Reader.append, Item.parts, digitsExpr,
      startsWith_facing unsigned.1, startsWith_facing unsigned.2]
  exact digit.trans (reaches_read (by decide) more)

/-- A circumflex is the start of the text. -/
theorem reaches_circumflex (rest : Text) (position : Nat) (reader : Reader) :
    (facing reader position ('^' :: rest)).Reaches
      (facing (reader.push (.anchor .lineStart)) (position + 1) rest) :=
  reaches_read (by decide) (by simp [readToken, readChar, Unicode.isAsciiBlank])

/-- A circumflex adds the start of the text. -/
theorem Reads.start : Reads ['^'] 0 fun _ => [.anchor .lineStart] :=
  Reads.ofParts fun reader position rest _ => reaches_circumflex rest position reader

/-- A dollar sign is the end of the text. -/
theorem reaches_dollar (rest : Text) (position : Nat) (reader : Reader) :
    (facing reader position ('$' :: rest)).Reaches
      (facing (reader.push (.anchor .lineEnd)) (position + 1) rest) :=
  reaches_read (by decide) (by simp [readToken, readChar, Unicode.isAsciiBlank])

/-- A dollar sign adds the end of the text. -/
theorem Reads.wholeEnd : Reads ['$'] 0 fun _ => [.anchor .lineEnd] :=
  Reads.ofParts fun reader position rest _ => reaches_dollar rest position reader

/-- A bar ends a branch. -/
theorem reaches_bar (rest : Text) (position : Nat) {reader : Reader}
    (free : ∀ index, reader.frame.kind ≠ .conditional index) :
    (facing reader position ('|' :: rest)).Reaches
      (facing reader.nextBranch (position + 1) rest) := by
  apply reaches_read (by decide)
  simp only [readToken, readBar]
  split
  · next index _ _ kind _ => exact absurd kind (free index)
  · rfl

/-- A look ahead is one part. -/
theorem closeFrame_ahead (inner : Reader) {reader : Reader} {start : Nat} {verbose : Bool}
    {parts : List Expr} {branches : List (List Expr)} {items : List Item}
    (opened : inner = { reader.openFrame (.ahead false) start verbose with
      frame := ⟨.ahead false, start, verbose, branches, items⟩ })
    (inside : inner.frame.parts = parts) :
    inner.closeFrame reader.frame reader.outer =
      reader.append [.ahead false (.sequence parts)] := by
  subst opened
  simp only [closeFrame, closedItem, Frame.expr, inside]
  rfl

/-- The look ahead for the end of a segment is one part. -/
theorem Reads.segmentEnd : Reads RoutePattern.segmentEnd 0 fun _ => [segmentEndExpr] := by
  apply Reads.ofParts
  intro reader position rest unsigned
  let opened := reader.openFrame (.ahead false) position reader.frame.verbose
  let slashed := opened.push (.char '/'.toNat)
  let ended := slashed.nextBranch.push (.anchor .lineEnd)
  have opens : (facing reader position (RoutePattern.segmentEnd ++ rest)).Reaches
      (facing opened (position + 3) ('/' :: '|' :: '$' :: ')' :: rest)) :=
    reaches_openFrame (.inr ⟨rfl, rfl⟩) _ position reader
  have slash : (facing opened (position + 3) ('/' :: '|' :: '$' :: ')' :: rest)).Reaches
      (facing slashed (position + 4) ('|' :: '$' :: ')' :: rest)) :=
    reaches_literal (by decide) _ _ _
  have bar : (facing slashed (position + 4) ('|' :: '$' :: ')' :: rest)).Reaches
      (facing slashed.nextBranch (position + 5) ('$' :: ')' :: rest)) :=
    reaches_bar _ _ fun _ same => FrameKind.noConfusion same
  have dollar : (facing slashed.nextBranch (position + 5) ('$' :: ')' :: rest)).Reaches
      (facing ended (position + 6) (')' :: rest)) := reaches_dollar _ _ _
  have close : (facing ended (position + 6) (')' :: rest)).Reaches
      (facing (ended.closeFrame reader.frame reader.outer) (position + 7) rest) :=
    reaches_close _ _ rfl
  rw [closeFrame_ahead ended rfl rfl] at close
  exact (((opens.trans slash).trans bar).trans dollar).trans close

/-- A slash with the end of the text after it. -/
theorem Reads.lastSlash : Reads "/(?=$)".toList 0 fun _ =>
    [.char '/'.toNat, .ahead false (.sequence [.anchor .lineEnd])] := by
  apply Reads.ofParts
  intro reader position rest unsigned
  let slashed := reader.push (.char '/'.toNat)
  let opened := slashed.openFrame (.ahead false) (position + 1) reader.frame.verbose
  let ended := opened.push (.anchor .lineEnd)
  have slash : (facing reader position ("/(?=$)".toList ++ rest)).Reaches
      (facing slashed (position + 1) ('(' :: '?' :: '=' :: '$' :: ')' :: rest)) :=
    reaches_literal (by decide) _ _ _
  have opens : (facing slashed (position + 1) ('(' :: '?' :: '=' :: '$' :: ')' :: rest)).Reaches
      (facing opened (position + 4) ('$' :: ')' :: rest)) :=
    reaches_openFrame (.inr ⟨rfl, rfl⟩) _ _ _
  have dollar : (facing opened (position + 4) ('$' :: ')' :: rest)).Reaches
      (facing ended (position + 5) (')' :: rest)) := reaches_dollar _ _ _
  have close : (facing ended (position + 5) (')' :: rest)).Reaches
      (facing (ended.closeFrame slashed.frame slashed.outer) (position + 6) rest) :=
    reaches_close _ _ rfl
  rw [closeFrame_ahead ended rfl rfl] at close
  exact ((slash.trans opens).trans dollar).trans close

/-- The optional slash at the very end is a repetition. -/
theorem Reads.optionalSlash : Reads RoutePattern.optionalSlash 0 fun _ => [optionalSlashExpr] :=
  Reads.lastSlash.repeated (.inl ⟨rfl, rfl⟩)

/-- The program of a source that is read as parts of one branch. -/
theorem compile_eq {source : Text} {count : Nat} {parts : Nat → List Expr} (flags : Flags)
    (reads : Reads source count parts)
    (fixed : (Expr.sequence (parts 0)).behindFixed = true) :
    Program.compile source flags = .ok ⟨source, flags, .sequence (parts 0), count, []⟩ := by
  obtain ⟨widths, counted, reading⟩ := reads (Reader.start flags) 0
  have ending := reading [] (by simp [StartsUnsigned])
  have inside := frame_parts_append ((Reader.start flags).widen widths) (parts 0) rfl rfl
  rw [List.append_nil] at ending
  have whole : (((Reader.start flags).widen widths).append (parts 0)).frame.expr =
      .sequence (parts 0) := by
    rw [Frame.expr, inside]
  have finished : readTokens (Token.ofText source) 0 0 (Reader.start flags) =
      .ok (((Reader.start flags).widen widths).append (parts 0)) := by
    exact Scan.readTokens_of_reaches ending
  have sound : Program.ofReader source (((Reader.start flags).widen widths).append (parts 0)) =
      .ok ⟨source, flags, .sequence (parts 0), count, []⟩ := by
    simp only [Program.ofReader, whole, fixed]
    simp [Reader.append, widen, Reader.start, counted]
  rw [Program.compile, finished]
  exact sound

end Reader

end RoutePattern.Regex
