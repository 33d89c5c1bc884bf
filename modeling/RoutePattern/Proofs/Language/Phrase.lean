import RoutePattern.Proofs.Language.Expression
import RoutePattern.Proofs.Language.Scanned

/-!
# Regular expressions as they are written

A phrase is a regular expression without groups that remember what they match, as a row of pieces
and bars: an atom stands for one character of a class, and what stands between the parentheses of a
plain group is a phrase again (`Phrase`). How atoms and quantifiers are spelled is open here: each
of them brings along that the scanner and the reader take its text as they should. The text of a
phrase is read into the branches of the phrase, whatever stands around it, as long as neither
blanks nor comments are skipped (`Phrase.reaches`): the last branch of the group that is being read
goes on with the first of the phrase. The scanner for the groups of a pattern passes over a phrase
(`Phrase.passed`).
-/
namespace RoutePattern.Regex

open Scan (facing Reaches)

/-! ## Pieces -/

/-- The expression is a character of a class. -/
def Expr.isCharacter : Expr → Bool
  | char _ | notChar _ | any | set .. => true
  | _ => false

/-- A character of a class is regular. -/
theorem Expr.isRegular_of_isCharacter {expr : Expr} (character : expr.isCharacter = true) :
    expr.isRegular = true := by
  cases expr <;> first | rfl | exact absurd character Bool.false_ne_true

/-- A character of a class may be repeated. -/
theorem Item.isRepeatable_of_isCharacter {expr : Expr} (character : expr.isCharacter = true) :
    (part expr).isRepeatable = true := by
  cases expr <;> first | rfl | exact absurd character Bool.false_ne_true

/-- How a character of a class is written. -/
structure Atom where
  text : Text
  expr : Expr
  character : expr.isCharacter = true
  given : text ≠ []
  unsigned : StartsUnsigned text
  passed : PassedOver text
  /-- Wherever the text stands, it is read as the expression. -/
  reads : ∀ (reader : Reader) (position : Nat) (rest : Text), reader.frame.verbose = false →
    (facing reader position (text ++ rest)).Reaches
      (facing (reader.push expr) (position + text.length) rest)

/-- How a repetition that may be given up again is written. -/
structure Quantifier where
  text : Text
  least : Nat
  most : Option Nat
  appetite : Appetite
  ordered : most.all (least ≤ ·) = true
  loose : appetite ≠ .possessive
  passed : PassedOver text
  /-- Behind an item the text makes a repetition of it. -/
  reads : ∀ (reader : Reader) (item : Item) (position : Nat) (rest : Text),
    item.isRepeatable = true → reader.frame.verbose = false → StartsUnsigned rest →
      (facing (reader.addItem item) position (text ++ rest)).Reaches
        (facing (reader.push (.loop least most appetite (.sequence item.parts)))
          (position + text.length) rest)

namespace Quantifier

/-- The text behind a piece that may be repeated. -/
def textOf (times : Option Quantifier) : Text := (times.map text).getD []

/-- The parts of a piece that may be repeated. -/
def repeated (times : Option Quantifier) (parts : List Expr) : List Expr :=
  match times with
  | none => parts
  | some times => [.loop times.least times.most times.appetite (.sequence parts)]

variable (times : Option Quantifier)

/-- The scanner passes over a quantifier. -/
theorem passed_textOf : PassedOver (textOf times) := by
  cases times with
  | none => exact .nil
  | some times => exact times.passed

/-- An item is read together with the quantifier behind it. -/
theorem reaches_textOf {reader : Reader} {item : Item} (repeatable : item.isRepeatable = true)
    (shown : reader.frame.verbose = false) (position : Nat) {rest : Text}
    (unsigned : StartsUnsigned rest) : ∃ other : Item, other.parts = repeated times item.parts ∧
      (facing (reader.addItem item) position (textOf times ++ rest)).Reaches
        (facing (reader.addItem other) (position + (textOf times).length) rest) := by
  cases times with
  | none => exact ⟨item, rfl, .refl⟩
  | some times =>
    exact ⟨.part (.loop times.least times.most times.appetite (.sequence item.parts)), rfl,
      times.reads reader item position rest repeatable shown unsigned⟩

/-- Regular parts stay regular if they are repeated. -/
theorem isRegular_repeated {parts : List Expr} (regular : ∀ part ∈ parts, part.isRegular = true) :
    ∀ part ∈ repeated times parts, part.isRegular = true := by
  cases times with
  | none => exact regular
  | some times =>
    refine List.forall_mem_singleton.2 ?_
    simp only [Expr.isRegular, Expr.isRegular_sequence.2 regular, times.ordered, Bool.true_and,
      Bool.and_true, bne_iff_ne]
    exact times.loose

end Quantifier

/-! ## Branches -/

/-- Rows of parts, the last of which goes on with the first row of others. -/
def joined (one two : List (List Expr)) : List (List Expr) :=
  one.dropLast ++ two.modifyHead (one.getLastD [] ++ ·)

/-- The last row goes on. -/
theorem joined_concat (before : List (List Expr)) (last : List Expr) (two : List (List Expr)) :
    joined (before ++ [last]) two = before ++ two.modifyHead (last ++ ·) := by
  simp [joined]

/-- More parts in the last row come before those that it goes on with. -/
theorem joined_joined_singleton (one : List (List Expr)) (parts : List Expr)
    (two : List (List Expr)) :
    joined (joined one [parts]) two = joined one (two.modifyHead (parts ++ ·)) := by
  have single : joined one [parts] = one.dropLast ++ [one.getLastD [] ++ parts] := rfl
  rw [single, joined_concat, joined, List.modifyHead_modifyHead]
  simp [Function.comp_def]

/-- Parts in front of the first row come before all others. -/
theorem joined_modifyHead {one : List (List Expr)} (some : one ≠ []) (parts : List Expr)
    (two : List (List Expr)) :
    joined (one.modifyHead (parts ++ ·)) two = (joined one two).modifyHead (parts ++ ·) := by
  obtain ⟨first, others, rfl⟩ := List.exists_cons_of_ne_nil some
  rcases List.eq_nil_or_concat' others with rfl | ⟨before, last, rfl⟩
  · cases two <;> simp [joined]
  · rw [List.modifyHead_cons, ← List.cons_append, ← List.cons_append, joined_concat, joined_concat,
      List.cons_append, List.cons_append, List.modifyHead_cons]

/-- A row in front of some rows comes before all of them. -/
theorem joined_cons {one : List (List Expr)} (some : one ≠ []) (row : List Expr)
    (two : List (List Expr)) : joined (row :: one) two = row :: joined one two := by
  obtain ⟨before, last, rfl⟩ := (List.eq_nil_or_concat' one).resolve_left some
  rw [joined_concat, ← List.cons_append, joined_concat, List.cons_append]

namespace Frame

/-- The branches of a group so far, the last of which is being read. -/
def rows (frame : Frame) : List (List Expr) := frame.branches.reverse ++ [frame.branch]

/-- A group that is the same but for what has been read in it since. -/
structure Grows (frame : Frame) (branches : List (List Expr)) (next : Frame) : Prop where
  kind : next.kind = frame.kind
  start : next.start = frame.start
  verbose : next.verbose = frame.verbose
  rows : next.rows = joined frame.rows branches

end Frame

namespace Frame.Grows

variable {frame next : Frame} {branches : List (List Expr)}

/-- Nothing has been read yet. -/
theorem refl (frame : Frame) : frame.Grows [[]] frame where
  kind := rfl
  start := rfl
  verbose := rfl
  rows := by rw [Frame.rows, joined_concat]; simp

/-- The branches of a group in which nothing had been read are those that have been read since. -/
theorem parts (grows : frame.Grows branches next) (fresh : frame.rows = [[]]) :
    next.parts = Expr.alternation branches := by
  have rows : next.rows = branches := by
    rw [grows.rows, fresh]
    cases branches <;> simp [joined]
  exact congrArg Expr.alternation rows

end Frame.Grows

namespace Reader

variable {reader : Reader} {frame : Frame} {branches : List (List Expr)}

/-- The reader with another innermost group. -/
def withFrame (reader : Reader) (frame : Frame) : Reader := { reader with frame := frame }

@[simp] theorem withFrame_addItem (item : Item) :
    (reader.addItem item).withFrame frame = reader.withFrame frame := rfl

@[simp] theorem withFrame_nextBranch :
    reader.nextBranch.withFrame frame = reader.withFrame frame := rfl

/-- One more item in front of what has been read since. -/
theorem grows_of_addItem {item : Item} (grows : (reader.addItem item).frame.Grows branches frame) :
    reader.frame.Grows (branches.modifyHead (item.parts ++ ·)) frame where
  kind := grows.kind
  start := grows.start
  verbose := grows.verbose
  rows := by
    have rows : (reader.addItem item).frame.rows = joined reader.frame.rows [item.parts] := by
      rw [Frame.rows, Frame.rows, joined_concat]
      simp [addItem, Frame.branch]
    rw [grows.rows, rows, joined_joined_singleton]

/-- A bar in front of what has been read since. -/
theorem grows_of_nextBranch (grows : reader.nextBranch.frame.Grows branches frame) :
    reader.frame.Grows ([] :: branches) frame where
  kind := grows.kind
  start := grows.start
  verbose := grows.verbose
  rows := by
    have rows : reader.nextBranch.frame.rows = reader.frame.rows ++ [[]] := by
      simp [nextBranch, Frame.rows, Frame.branch]
    rw [grows.rows, rows, joined_concat, Frame.rows, joined_concat]
    cases branches <;> simp

/-- A plain group is one item with the parts of its branches. -/
theorem closeFrame_plain {start : Nat} {verbose : Bool}
    (grows : (reader.openFrame .plain start verbose).frame.Grows branches frame) :
    ((reader.openFrame .plain start verbose).withFrame frame).closeFrame reader.frame reader.outer =
      reader.addItem (.enclosed (Expr.alternation branches)) := by
  have kind : frame.kind = .plain := grows.kind
  simp only [withFrame, closeFrame, closedItem, kind, grows.parts rfl]
  rfl

/-- What is read between the parentheses of a plain group is one item. -/
theorem reaches_plain {text rest : Text} {position : Nat}
    (grows : (reader.openFrame .plain position reader.frame.verbose).frame.Grows branches frame)
    (reads : (facing (reader.openFrame .plain position reader.frame.verbose) (position + 3)
        (text ++ ')' :: rest)).Reaches
      (facing ((reader.openFrame .plain position reader.frame.verbose).withFrame frame)
        (position + 3 + text.length) (')' :: rest))) :
    (facing reader position ('(' :: '?' :: ':' :: (text ++ ')' :: rest))).Reaches
      (facing (reader.addItem (.enclosed (Expr.alternation branches)))
        (position + 3 + text.length + 1) rest) := by
  have opens := reaches_openFrame (.inl ⟨rfl, rfl⟩) (text ++ ')' :: rest) position reader
  have closes := reaches_close rest (position + 3 + text.length)
    (show ((reader.openFrame .plain position reader.frame.verbose).withFrame frame).outer =
      reader.frame :: reader.outer from rfl)
  rw [closeFrame_plain grows] at closes
  exact (opens.trans reads).trans closes

end Reader

/-! ## Phrases -/

/-- A regular expression without groups that remember what they match, as it is written. -/
inductive Phrase where
  /-- The empty text. -/
  | nil
  /-- An atom, perhaps with a quantifier, and what comes after it. -/
  | one (atom : Atom) (times : Option Quantifier) (rest : Phrase)
  /-- A plain group, perhaps with a quantifier, and what comes after it. -/
  | group (body : Phrase) (times : Option Quantifier) (rest : Phrase)
  /-- A bar, and what comes after it. -/
  | bar (rest : Phrase)

namespace Phrase

/-- The source of a phrase. -/
def text : Phrase → Text
  | nil => []
  | one atom times rest => atom.text ++ Quantifier.textOf times ++ rest.text
  | group body times rest =>
    '(' :: '?' :: ':' :: body.text ++ [')'] ++ Quantifier.textOf times ++ rest.text
  | bar rest => '|' :: rest.text

/-- The branches that a phrase is read into; there is at least one. -/
def branches : Phrase → List (List Expr)
  | nil => [[]]
  | one atom times rest =>
    rest.branches.modifyHead (Quantifier.repeated times [atom.expr] ++ ·)
  | group body times rest =>
    rest.branches.modifyHead (Quantifier.repeated times (Expr.alternation body.branches) ++ ·)
  | bar rest => [] :: rest.branches

/-- One phrase after the other. -/
def append : Phrase → Phrase → Phrase
  | nil, later => later
  | one atom times rest, later => one atom times (rest.append later)
  | group body times rest, later => group body times (rest.append later)
  | bar rest, later => bar (rest.append later)

variable (phrase later : Phrase)

/-- There is at least one branch. -/
theorem branches_ne_nil : phrase.branches ≠ [] := by
  induction phrase with
  | nil => exact List.cons_ne_nil _ _
  | one atom times rest ih => simpa [branches] using ih
  | group body times rest _ ih => simpa [branches] using ih
  | bar rest ih => exact List.cons_ne_nil _ _

/-- The text of one phrase after the other. -/
@[simp] theorem text_append : (phrase.append later).text = phrase.text ++ later.text := by
  induction phrase with
  | nil => rfl
  | one atom times rest ih => simp [append, text, ih]
  | group body times rest _ ih => simp [append, text, ih]
  | bar rest ih => simp [append, text, ih]

/-- The branches of one phrase after the other. -/
theorem branches_append :
    (phrase.append later).branches = joined phrase.branches later.branches := by
  induction phrase with
  | nil =>
    have same : later.branches.modifyHead (([] : List Expr) ++ ·) = later.branches := by
      cases later.branches <;> simp
    exact same.symm
  | one atom times rest ih =>
    rw [append, branches, branches, ih, joined_modifyHead rest.branches_ne_nil]
  | group body times rest _ ih =>
    rw [append, branches, branches, ih, joined_modifyHead rest.branches_ne_nil]
  | bar rest ih =>
    rw [append, branches, branches, ih, joined_cons rest.branches_ne_nil]

/-- The scanner passes over a phrase. -/
theorem passed : PassedOver phrase.text := by
  induction phrase with
  | nil => exact .nil
  | one atom times rest ih => exact (atom.passed.append (Quantifier.passed_textOf times)).append ih
  | group body times rest inside ih =>
    exact (inside.group.append (Quantifier.passed_textOf times)).append ih
  | bar rest ih => exact (PassedOver.char (by decide)).append ih

/-- No phrase begins with a sign that changes the appetite of a repetition. -/
theorem startsUnsigned : StartsUnsigned phrase.text := by
  induction phrase with
  | nil => simp [text, StartsUnsigned]
  | one atom times rest ih =>
    obtain ⟨c, others, cut⟩ := List.exists_cons_of_ne_nil atom.given
    have unsigned := atom.unsigned
    rw [cut] at unsigned
    rw [text, cut]
    exact unsigned
  | group body times rest _ ih => simp [text, StartsUnsigned]
  | bar rest ih => simp [text, StartsUnsigned]

/-- All parts of a phrase are regular. -/
theorem isRegular : ∀ branch ∈ phrase.branches, ∀ part ∈ branch, part.isRegular = true := by
  have inFront {parts : List Expr} {branches : List (List Expr)}
      (first : ∀ part ∈ parts, part.isRegular = true)
      (others : ∀ branch ∈ branches, ∀ part ∈ branch, part.isRegular = true) :
      ∀ branch ∈ branches.modifyHead (parts ++ ·), ∀ part ∈ branch, part.isRegular = true := by
    cases branches with
    | nil => exact others
    | cons branch branches =>
      obtain ⟨here, later⟩ := List.forall_mem_cons.1 others
      exact List.forall_mem_cons.2 ⟨List.forall_mem_append.2 ⟨first, here⟩, later⟩
  induction phrase with
  | nil => simp [branches]
  | one atom times rest ih =>
    have regular := Expr.isRegular_of_isCharacter atom.character
    exact inFront (Quantifier.isRegular_repeated times (List.forall_mem_singleton.2 regular)) ih
  | group body times rest inside ih =>
    exact inFront (Quantifier.isRegular_repeated times (Expr.isRegular_alternation inside)) ih
  | bar rest ih => exact List.forall_mem_cons.2 ⟨by simp, ih⟩

/-- A phrase is read into its branches. -/
theorem reaches (reader : Reader) (shown : reader.frame.verbose = false)
    (free : ∀ index, reader.frame.kind ≠ .conditional index) (position : Nat) {rest : Text}
    (unsigned : StartsUnsigned rest) : ∃ frame, reader.frame.Grows phrase.branches frame ∧
      (facing reader position (phrase.text ++ rest)).Reaches
        (facing (reader.withFrame frame) (position + phrase.text.length) rest) := by
  -- The body of a group is read in a frame of its own, so the reader is not fixed.
  induction phrase generalizing reader position rest with
  | nil => exact ⟨reader.frame, .refl _, .refl⟩
  | one atom times later ih =>
    have follows := later.startsUnsigned.append unsigned
    have read := atom.reads reader position (Quantifier.textOf times ++ (later.text ++ rest)) shown
    have repeatable := Item.isRepeatable_of_isCharacter atom.character
    obtain ⟨other, parts, again⟩ := Quantifier.reaches_textOf times repeatable shown
      (position + atom.text.length) follows
    obtain ⟨frame, grows, further⟩ := ih (reader.addItem other) shown free
      (position + atom.text.length + (Quantifier.textOf times).length) unsigned
    have branches := Reader.grows_of_addItem grows
    rw [parts] at branches
    refine ⟨frame, branches, ?_⟩
    have reach := (read.trans again).trans further
    simpa [text, Nat.add_assoc] using reach
  | group body times later inside ih =>
    have follows := later.startsUnsigned.append unsigned
    have closing : StartsUnsigned (')' :: (Quantifier.textOf times ++ (later.text ++ rest))) := by
      simp [StartsUnsigned]
    obtain ⟨within, filled, read⟩ := inside (reader.openFrame .plain position reader.frame.verbose)
      shown (fun _ => FrameKind.noConfusion) (position + 3) closing
    obtain ⟨other, parts, again⟩ := Quantifier.reaches_textOf times
      (show (Item.enclosed (Expr.alternation body.branches)).isRepeatable = true from rfl) shown
      (position + 3 + body.text.length + 1) follows
    obtain ⟨frame, grows, further⟩ := ih (reader.addItem other) shown free
      (position + 3 + body.text.length + 1 + (Quantifier.textOf times).length) unsigned
    have branches := Reader.grows_of_addItem grows
    rw [parts] at branches
    refine ⟨frame, branches, ?_⟩
    have reach := ((Reader.reaches_plain filled read).trans again).trans further
    have wide : position + (group body times later).text.length = position + 3 + body.text.length +
        1 + (Quantifier.textOf times).length + later.text.length := by
      simp [text]
      omega
    rw [wide]
    simpa [text] using reach
  | bar later ih =>
    have bar := Reader.reaches_bar (later.text ++ rest) position free
    obtain ⟨frame, grows, further⟩ := ih reader.nextBranch shown free (position + 1) unsigned
    refine ⟨frame, Reader.grows_of_nextBranch grows, ?_⟩
    have reach := bar.trans further
    simpa [text, Nat.add_assoc, Nat.add_comm 1] using reach

end Phrase

end RoutePattern.Regex
