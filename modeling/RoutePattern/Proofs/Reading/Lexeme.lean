import RoutePattern.Proofs.Reading.Moves
import RoutePattern.Proofs.Reading.Taken

/-!
# Lexemes

What a reader takes at once is a lexeme: an expression of one character or place, a quantifier, a
bar, the head of a group, a parenthesis, or a comment (`Lexeme`). A lexeme does the same to every
reader that it can be read by (`Lexeme.act`), and it is read in the same way in front of all texts
that begin alike up to their first parenthesis (`BeginAlike`, `Lexeme.IsRead`). Groups with a name,
conditions and flags are left out here.
-/
namespace RoutePattern.Regex

/-- A token that begins and ends neither a group nor a set. -/
def Token.IsInert (token : Token) : Prop := token ∉ [.plain '(', .plain ')', .plain '[', .dangling]

/-- A token inside of what is read at once begins and ends nothing else. -/
theorem Token.IsInner.isInert {token : Token} (inner : token.IsInner) : token.IsInert := by
  have known := inner.ne
  simp only [IsInert, List.mem_cons, List.not_mem_nil, or_false, not_or] at known ⊢
  exact ⟨known.1, known.2.1, known.2.2.1, known.2.2.2.2⟩

/-- Where a question mark follows a parenthesis, one of some signs follows the question mark. -/
def Token.HasSign (signs : Text) : List Token → Bool
  | .plain '(' :: .plain '?' :: sign :: _ => signs.any fun c => sign = .plain c
  | _ => true

/-- The signs of groups that hold their contents together, look around or are atomic. -/
def groupSigns : Text := [':', '=', '!', '<', '>']

/-- A way of opening a group that neither remembers what it matches nor changes flags. -/
inductive Opening where
  | plain
  | ahead (negated : Bool)
  | behind (negated : Bool)
  | atomic
  deriving Repr, DecidableEq

namespace Opening

/-- The signs after the question mark. -/
def signs : Opening → Text
  | plain => [':']
  | ahead false => ['=']
  | ahead true => ['!']
  | behind false => ['<', '=']
  | behind true => ['<', '!']
  | atomic => ['>']

/-- The reader inside the group. -/
def inside (opening : Opening) (reader : Reader) (start : Nat) : Reader :=
  match opening with
  | plain => reader.openFrame .plain start reader.frame.verbose
  | ahead negated => reader.openFrame (.ahead negated) start reader.frame.verbose
  | behind negated => reader.openBehind negated start
  | atomic => reader.openFrame .atomic start reader.frame.verbose

end Opening

/-- What a reader takes at once. -/
inductive Lexeme where
  /-- One more part of the branch. -/
  | part (expr : Expr)
  /-- A quantifier. -/
  | repetition (least : Nat) (most : Option Nat) (appetite : Appetite)
  | bar
  | opening (opening : Opening)
  /-- The parenthesis of a group that remembers what it matches. -/
  | capture
  | closing
  | comment
  deriving Repr, DecidableEq

namespace Lexeme

/-- The reader after a lexeme, unless it cannot stand there. -/
def act (position : Nat) (reader : Reader) : Lexeme → Option Reader
  | .part expr => some (reader.push expr)
  | .repetition least most appetite =>
    match reader.frame.items with
    | [] | .part (.anchor _) :: _ | .part (.loop ..) :: _ => none
    | item :: items =>
      let loop : Item := .part (.loop least most appetite (.sequence item.parts))
      some { reader with frame := { reader.frame with items := loop :: items } }
  | .bar =>
    match reader.frame.kind, reader.frame.branches with
    | .conditional _, _ :: _ => none
    | _, _ => some reader.nextBranch
  | .opening head => some (head.inside reader position)
  | .capture => some (reader.openCapture position)
  | .closing =>
    match reader.outer with
    | [] => none
    | outermost :: outer => some (reader.closeFrame outermost outer)
  | .comment => some reader

/-- The lexeme refers to no group. -/
def IsFree (lexeme : Lexeme) : Prop := ∀ index, lexeme ≠ part (.again index)

/-- The lexeme of a token and those taken with it is read in front of other tokens, wherever it can
stand. -/
def IsRead (lexeme : Lexeme) (token : Token) (taken rest : List Token) : Prop :=
  ∀ (reader next : Reader) (position place : Nat), reader.frame.verbose = false →
    lexeme.act position reader = some next →
    ∃ last, reader.readToken token position ⟨taken ++ rest, place⟩ = .ok (next, ⟨rest, last⟩)

/-- How lexemes are written in front of other tokens. -/
inductive Spells (left : List Token) : List Token → Lexeme → Prop
  | part {tokens : List Token} (expr : Expr) (plain : expr.isPlain = true)
    (inert : ∀ token ∈ tokens, token.IsInert) : Spells left tokens (part expr)
  | set {inner : List Token} (expr : Expr) (plain : expr.isPlain = true)
    (sound : .dangling ∉ inner) (closed : .plain ']' ∉ (Token.setBody inner).tail) :
    Spells left (.plain '[' :: inner ++ [.plain ']']) (part expr)
  | repetition {tokens : List Token} (least : Nat) (most : Option Nat) (appetite : Appetite)
    (ordered : most.all (least ≤ ·) = true)
    (inert : ∀ token ∈ tokens, token.IsInert) : Spells left tokens (repetition least most appetite)
  | bar : Spells left [.plain '|'] bar
  | opening (opening : Opening) :
    Spells left (.plain '(' :: .plain '?' :: opening.signs.map .plain) (Lexeme.opening opening)
  | capture (bare : left.head? ≠ some (.plain '?')) : Spells left [.plain '('] capture
  | closing : Spells left [.plain ')'] closing
  | comment {inner : List Token} (sound : .dangling ∉ inner) (closed : .plain ')' ∉ inner) :
    Spells left (.plain '(' :: .plain '?' :: .plain '#' :: inner ++ [.plain ')']) comment

variable {reader next : Reader} {position least : Nat} {most : Option Nat} {appetite : Appetite}

/-- A quantifier repeats the latest item. -/
theorem act_repetition_eq :
    (repetition least most appetite).act position reader = some next ↔
      ∃ item items, reader.frame.items = item :: items ∧ item.isRepeatable = true ∧
        next = { reader with
          frame := { reader.frame with
            items := .part (.loop least most appetite (.sequence item.parts)) :: items } } := by
  simp only [act]
  split
  · next none => simp [none]
  · next anchored => simp [anchored, Item.isRepeatable]
  · next looped => simp [looped, Item.isRepeatable]
  · next item items anchored looped cut =>
    have free : item.isRepeatable = true := Item.isRepeatable_of_ne anchored looped
    constructor
    · intro made
      exact ⟨item, items, cut, free, (Option.some.inj made).symm⟩
    · rintro ⟨_, _, cut', -, rfl⟩
      obtain ⟨rfl, rfl⟩ := List.cons.inj (cut.symm.trans cut')
      rfl

/-- A bar begins another branch, unless a condition has two branches already. -/
theorem act_bar_eq : bar.act position reader = some next ↔
    (∀ index, reader.frame.kind = .conditional index → reader.frame.branches = []) ∧
      next = reader.nextBranch := by
  simp only [act]
  split
  · next index yes others kind cut => simp [kind, cut]
  · next free =>
    have alone (index : Nat) (kind : reader.frame.kind = .conditional index) :
        reader.frame.branches = [] := by
      cases branches : reader.frame.branches with
      | nil => rfl
      | cons yes others => exact absurd branches (free index yes others kind)
    rw [Option.some.injEq, and_iff_right alone, eq_comm]

/-- A closing parenthesis ends the innermost group, which must not be the whole. -/
theorem act_closing_eq : closing.act position reader = some next ↔
    ∃ outermost outer, reader.outer = outermost :: outer ∧
      next = reader.closeFrame outermost outer := by
  simp only [act]
  split
  · next whole => simp [whole]
  · next outermost outer inside =>
    simp only [inside, Option.some.injEq, List.cons.injEq]
    constructor
    · rintro rfl
      exact ⟨outermost, outer, ⟨rfl, rfl⟩, rfl⟩
    · rintro ⟨_, _, ⟨rfl, rfl⟩, rfl⟩
      rfl

end Lexeme

/-! ## Texts that begin alike -/

/-- Two rows of tokens are the same up to the first parenthesis of each. -/
inductive BeginAlike : List Token → List Token → Prop
  | nil : BeginAlike [] []
  | parenthesis (one two : List Token) : BeginAlike (.plain '(' :: one) (.plain '(' :: two)
  | cons {one two : List Token} (token : Token) (later : BeginAlike one two) :
    BeginAlike (token :: one) (token :: two)

namespace BeginAlike

variable {one two : List Token}

/-- Every row begins like itself. -/
theorem refl (tokens : List Token) : BeginAlike tokens tokens := by
  induction tokens with
  | nil => exact .nil
  | cons token tokens ih => exact ih.cons token

/-- Either row begins like the other one. -/
theorem symm (alike : BeginAlike one two) : BeginAlike two one := by
  induction alike with
  | nil => exact .nil
  | parenthesis one two => exact .parenthesis two one
  | cons token _ ih => exact ih.cons token

/-- Rows that begin alike have the same first token. -/
theorem head? (alike : BeginAlike one two) : one.head? = two.head? := by
  cases alike <;> rfl

/-- The same tokens in front of both. -/
theorem append (alike : BeginAlike one two) (taken : List Token) :
    BeginAlike (taken ++ one) (taken ++ two) := by
  induction taken with
  | nil => exact alike
  | cons token taken ih => exact ih.cons token

/-- What is in front of the first parenthesis is the same in both. -/
theorem split {taken left : List Token} (alike : BeginAlike one (taken ++ left))
    (bare : .plain '(' ∉ taken) : ∃ rest, one = taken ++ rest ∧ BeginAlike rest left := by
  induction taken generalizing one with
  | nil => exact ⟨one, rfl, alike⟩
  | cons token taken ih =>
    obtain ⟨other, bare⟩ := List.ne_and_not_mem_of_not_mem_cons bare
    cases alike with
    | parenthesis => exact absurd rfl other
    | cons _ later =>
      obtain ⟨rest, rfl, alike⟩ := ih later bare
      exact ⟨rest, rfl, alike⟩

end BeginAlike

/-- What is taken of some tokens can be taken of all that begin like them. -/
theorem Takes.alike {gives : (start : Nat) → Cursor → Cursor → Prop}
    {tokens left others : List Token}
    (takes : Takes gives tokens left) (alike : BeginAlike others tokens) :
    ∃ rest, ∀ start position, ∃ place, gives start ⟨others, position⟩ ⟨rest, place⟩ := by
  obtain ⟨taken, rfl, inner, reads⟩ := takes
  have bare : .plain '(' ∉ taken := fun member => absurd (inner _ member).ne (by simp)
  obtain ⟨rest, rfl, further⟩ := alike.split bare
  exact ⟨rest, fun start position => reads rest start position further.head?⟩

namespace Reader

/-- The token in front of a reader is read together with some of those after it, as one lexeme. -/
def Lexes (reader : Reader) (position : Nat) (token : Token) (tokens : List Token) (next : Reader)
    (left : List Token) : Prop :=
  ∃ (lexeme : Lexeme) (taken : List Token), tokens = taken ++ left ∧
    lexeme.Spells left (token :: taken) ∧
    lexeme.act position reader = some next ∧
    (lexeme.IsFree → ∀ rest, BeginAlike rest left → lexeme.IsRead token taken rest)

variable {reader next : Reader} {position start : Nat} {token : Token} {tokens left : List Token}
  {cursor after : Cursor}

/-- A lexeme that neither begins nor ends a group or a set. -/
theorem Lexes.ofTakes {lexeme : Lexeme} (inert : token.IsInert)
    (spells : ∀ taken, (∀ token ∈ taken, token.IsInert) → lexeme.Spells left taken)
    (acts : lexeme.act position reader = some next)
    (takes : Takes (fun start one two => ∀ other next : Reader, other.frame.verbose = false →
      lexeme.act start other = some next → other.readToken token start one = .ok (next, two))
      tokens left) : reader.Lexes position token tokens next left := by
  obtain ⟨taken, cut, inner, reads⟩ := takes
  refine ⟨lexeme, taken, cut, spells _ ?_, acts,
    fun _ rest alike other next place last shown acts => ?_⟩
  · exact List.forall_mem_cons.2 ⟨inert, fun token found => (inner token found).isInert⟩
  · obtain ⟨ended, given⟩ := reads rest place last alike.head?
    exact ⟨ended, given other next shown acts⟩

/-- One more part of the branch. -/
theorem Lexes.part {expr : Expr} (plain : expr.isPlain = true) (inert : token.IsInert)
    (takes : Takes (fun start one two => ∀ other : Reader, other.frame.verbose = false →
      other.readToken token start one = .ok (other.push expr, two)) tokens left) :
    reader.Lexes position token tokens (reader.push expr) left := by
  refine .ofTakes inert (fun _ => .part expr plain) rfl (takes.imp ?_)
  intro start one two reads other next shown acts
  obtain rfl := Option.some.inj acts
  exact reads other shown

/-! ## Escapes -/

/-- An escape that stands for an expression, whoever reads it. -/
theorem lexes_escape {letter : Char} {expr : Expr} (plain : expr.isPlain = true)
    (takes : Takes (fun start one two => ∀ other : Reader,
      other.readEscape letter start one = .ok (other.push expr, two)) tokens left) :
    reader.Lexes position (.escaped letter) tokens (reader.push expr) left :=
  .part plain (by simp [Token.IsInert]) (takes.imp fun _ _ _ reads other _ => reads other)

/-- A reference to a group. -/
theorem lexes_reference {letter : Char} {index : Nat} {chars : Text}
    (takes : Takes (fun _ one two => one.takeWhile Char.isDigit 1 = (chars, two)) tokens left) :
    reader.Lexes position (.escaped letter) tokens (reader.push (.again index)) left := by
  obtain ⟨taken, cut, inner, -⟩ := takes
  refine ⟨.part (.again index), taken, cut, .part _ rfl ?_, rfl,
    fun free => absurd rfl (free index)⟩
  exact List.forall_mem_cons.2
    ⟨by simp [Token.IsInert], fun token found => (inner token found).isInert⟩

/-- An escape that starts with a digit other than zero. -/
theorem lexes_readNumberEscape {digit : Char}
    (escape : ∀ (other : Reader) start one, other.readEscape digit start one =
      other.readNumberEscape digit start one)
    (read : reader.readNumberEscape digit position cursor = .ok (next, after)) :
    reader.Lexes position (.escaped digit) cursor.tokens next after.tokens := by
  cases second : cursor.takeWhile Char.isDigit 1 with
  | mk chars afterSecond =>
  cases third : afterSecond.takeWhile isOctal 1 with
  | mk more afterThird =>
  unfold readNumberEscape at read escape
  simp only [second, third] at read
  split at read
  · next octal =>
    split at read
    · exact absurd read (Cursor.fail_ne_ok _ _ _ _)
    · next small =>
      obtain ⟨rfl, rfl⟩ := Prod.mk.inj (Except.ok.inj read)
      refine lexes_escape rfl ((takes_takeWhile (by decide) second).append
        (takes_takeWhile (by decide) third) fun start one two three first last other => ?_)
      simp only [escape, first, last, if_pos octal, if_neg small]
  · unfold readReference at read
    split at read
    · exact absurd read (Cursor.fail_ne_ok _ _ _ _)
    split at read
    · exact absurd read (Cursor.fail_ne_ok _ _ _ _)
    · obtain ⟨_, -, last⟩ := exists_of_bind read
      obtain ⟨rfl, rfl⟩ := Prod.mk.inj (Except.ok.inj last)
      exact lexes_reference (takes_takeWhile (by decide) second)

/-- An escape. -/
theorem lexes_readEscape {letter : Char}
    (read : reader.readEscape letter position cursor = .ok (next, after)) :
    reader.Lexes position (.escaped letter) cursor.tokens next after.tokens := by
  -- In the order of the reader: places first, plain characters last.
  unfold readEscape at read
  split at read
  · next anchor known =>
    obtain ⟨rfl, rfl⟩ := Prod.mk.inj (Except.ok.inj read)
    exact lexes_escape rfl (.nothing (fun start one other => by simp only [readEscape, known]) _)
  · next item unknown known =>
    obtain ⟨rfl, rfl⟩ := Prod.mk.inj (Except.ok.inj read)
    exact lexes_escape rfl
      (.nothing (fun start one other => by simp only [readEscape, unknown, known]) _)
  · next code unknown unknown' known =>
    obtain ⟨rfl, rfl⟩ := Prod.mk.inj (Except.ok.inj read)
    exact lexes_escape rfl
      (.nothing (fun start one other => by simp only [readEscape, unknown, unknown', known]) _)
  · next unknown unknown' unknown'' =>
    split at read
    · next result coded =>
      cases result with
      | error refusal => exact absurd read (by simp [Except.map])
      | ok found =>
        obtain ⟨rfl, rfl⟩ := Prod.mk.inj (Except.ok.inj read)
        refine lexes_escape rfl
          ((takes_readCodeEscape? coded).imp fun start one two coded other => ?_)
        simp only [readEscape, unknown, unknown', unknown'', coded]
        rfl
    · next uncoded =>
      have uncoded := readCodeEscape?_eq_none uncoded
      split at read
      · next zero =>
        cases found : cursor.takeWhile isOctal 2 with
        | mk digits last =>
        simp only [found] at read
        obtain ⟨rfl, rfl⟩ := Prod.mk.inj (Except.ok.inj read)
        refine lexes_escape rfl ((takes_takeWhile (by decide) found).imp
          fun start one two taken other => ?_)
        simp only [readEscape, unknown, unknown', unknown'', uncoded, if_pos zero, taken]
      · next zero =>
        split at read
        · next digit =>
          refine lexes_readNumberEscape (fun other start one => ?_) read
          simp only [readEscape, unknown, unknown', unknown'', uncoded, if_neg zero, if_pos digit]
        · next letters =>
          cases plain : readPlainEscape letter position cursor with
          | error refusal => exact absurd read (by simp [plain, Except.map])
          | ok code =>
            rw [plain] at read
            obtain ⟨rfl, rfl⟩ := Prod.mk.inj (Except.ok.inj read)
            refine lexes_escape rfl (.nothing (fun start one other => ?_) _)
            simp only [readEscape, unknown, unknown', unknown'', uncoded, if_neg zero,
              if_neg letters, readPlainEscape_of_ok plain]
            rfl

end Reader

end RoutePattern.Regex
