import RoutePattern.Proofs.Language.Phrase
import RoutePattern.Proofs.Reading.Taken

/-!
# How atoms are spelled

The atoms of a phrase are the characters that stand for themselves, the point, escapes, and the sets
that are read as such by themselves. Each of them is read alike wherever it stands. A set may hold a
bracket in front only if it holds nothing else that has a meaning to the scanner for groups, which
takes this bracket for the end of the set.
-/
namespace RoutePattern.Regex

open Scan (facing Reaches)

/-- A text whose tokens are read together with the first of them. -/
theorem Scan.reaches_text {text rest : Text} {token : Token} {taken : List Token}
    (closed : Token.IsClosed text) (cut : Token.ofText text = token :: taken) {reader next : Reader}
    {position : Nat} {cursor : Cursor}
    (read : reader.readToken token position ⟨taken ++ Token.ofText rest, position + token.width⟩ =
      .ok (next, cursor)) (left : cursor.tokens = Token.ofText rest) :
    (facing reader position (text ++ rest)).Reaches
      (facing next (position + text.length) rest) := by
  have sound : .dangling ∉ token :: taken := cut ▸ closed
  have reach := reaches_along sound read left
  rw [← cut, Token.sum_width_ofText] at reach
  rw [facing, Token.ofText_append closed]
  exact reach

/-! ## Literals and escapes -/

/-- The characters that do not stand for themselves. -/
def metaCharacters : List Char :=
  ['\\', '|', ')', '[', '?', '*', '+', '\x7b', '.', '(', '^', '$']

namespace Atom

/-- A character that stands for itself. -/
def literal (c : Char) (plain : c ∉ metaCharacters) : Atom where
  text := [c]
  expr := .char c.toNat
  character := rfl
  given := List.cons_ne_nil _ _
  unsigned := by simp_all [StartsUnsigned, metaCharacters]
  passed := PassedOver.char (by simp_all [metaCharacters])
  reads := by
    intro reader position rest shown
    simp only [metaCharacters, List.mem_cons, List.not_mem_nil, or_false, not_or] at plain
    exact Reader.reaches_read plain.1 (by simp [Reader.readToken, Reader.readChar, shown, plain])

/-- Any character but a line end. -/
def any : Atom where
  text := ['.']
  expr := .any
  character := rfl
  given := List.cons_ne_nil _ _
  unsigned := by simp [StartsUnsigned]
  passed := PassedOver.char (by decide)
  reads := by
    intro reader position rest shown
    exact Reader.reaches_read (by decide) (by simp [Reader.readToken, Reader.readChar, shown])

end Atom

/-- What an escape of one letter stands for: a class, a control character, or a character that is no
letter or digit of ASCII itself. -/
def escapedExpr? (c : Char) : Option Expr :=
  match categoryEscape? c, controlEscape? c with
  | some item, _ => some (.set false [item])
  | none, some code => some (.char code)
  | none, none => if c.isAlphanum then none else some (.char c.toNat)

/-- An escape of one letter is read as what it stands for. -/
theorem readEscape_of_escapedExpr? {c : Char} {expr : Expr} (known : escapedExpr? c = some expr)
    (reader : Reader) (start : Nat) (cursor : Cursor) :
    reader.readEscape c start cursor = .ok (reader.push expr, cursor) := by
  unfold escapedExpr? at known
  split at known
  · next found =>
    unfold categoryEscape? at found
    split at found <;> cases found <;> cases known <;> rfl
  · next none found =>
    unfold controlEscape? at found
    split at found <;> cases found <;> cases known <;> rfl
  · next noCategory noControl =>
    split at known
    · exact absurd known (by simp)
    · next plain =>
      obtain rfl := Option.some.inj known
      -- Every escape with a meaning of its own is a letter or a digit.
      have ne (letter : Char) (named : letter.isAlphanum = true) : c ≠ letter := fun same =>
        plain (same ▸ named)
      have noAnchor : Reader.anchorEscape? c = none := by
        unfold Reader.anchorEscape?
        split <;> first | rfl | exact absurd rfl (ne _ (by decide))
      have noDigit : c.isDigit = false := by
        rw [Char.isAlphanum, Bool.or_eq_true, not_or, Bool.not_eq_true, Bool.not_eq_true] at plain
        exact plain.2
      have noCode : readCodeEscape? c start cursor = none := by
        simp [readCodeEscape?, ne 'x' (by decide), ne 'u' (by decide), ne 'U' (by decide),
          ne 'N' (by decide)]
      simp [Reader.readEscape, noAnchor, noCategory, noControl, noCode, ne '0' (by decide), noDigit,
        readPlainEscape, plain, Except.map]

/-- What an escape of one letter stands for is one character. -/
theorem isCharacter_of_escapedExpr? {c : Char} {expr : Expr} (known : escapedExpr? c = some expr) :
    expr.isCharacter = true := by
  unfold escapedExpr? at known
  split at known
  · obtain rfl := Option.some.inj known
    rfl
  · obtain rfl := Option.some.inj known
    rfl
  · split at known
    · exact absurd known (by simp)
    · obtain rfl := Option.some.inj known
      rfl

/-- A text that begins with a backslash changes no appetite. -/
theorem startsUnsigned_escape (text : Text) : StartsUnsigned ('\\' :: text) := by
  simp [StartsUnsigned]

/-- An escape of one letter. -/
def Atom.escape (c : Char) (expr : Expr) (known : escapedExpr? c = some expr) : Atom where
  text := ['\\', c]
  expr := expr
  character := isCharacter_of_escapedExpr? known
  given := List.cons_ne_nil _ _
  unsigned := startsUnsigned_escape _
  passed := PassedOver.escape c
  reads := by
    intro reader position rest _
    refine .single ?_
    rw [facing, List.cons_append, List.singleton_append, Token.ofText_escape]
    exact Scan.next?_read (Token.escaped_ne_dangling c) (readEscape_of_escapedExpr? known ..)

/-! ## Digits -/

/-- Characters of a class, as many as allowed or up to one that is not of the class. -/
theorem Cursor.takeWhile_ofText {accepts : Char → Bool} (bare : accepts '\\' = false) {taken : Text}
    (each : ∀ c ∈ taken, accepts c = true) {rest : Text} {limit : Nat}
    (enough : taken.length ≤ limit)
    (stops : taken.length < limit → ∀ c ∈ rest.head?, accepts c = false) (position : Nat) :
    Cursor.takeWhile accepts limit ⟨Token.ofText (taken ++ rest), position⟩ =
      (taken, ⟨Token.ofText rest, position + taken.length⟩) := by
  induction taken generalizing limit position with
  | nil =>
    cases limit with
    | zero => rfl
    | succ limit =>
      rw [List.nil_append, takeWhile]
      split
      · next c tokens cut =>
        have first : rest.head? = some c := by
          by_contra other
          exact Token.head?_ofText_ne other (by rw [show Token.ofText rest = _ from cut]; rfl)
        rw [if_neg (by simp [stops (Nat.succ_pos _) c first])]
        rfl
      · rfl
  | cons c taken ih =>
    obtain ⟨accepted, others⟩ := List.forall_mem_cons.1 each
    have plain : c ≠ '\\' := fun same => by simp [same, bare] at accepted
    obtain ⟨limit, rfl⟩ := Nat.exists_eq_add_one.2 (Nat.lt_of_lt_of_le (Nat.succ_pos _) enough)
    rw [List.cons_append, Token.ofText_cons plain, takeWhile]
    simp only [accepted, if_true, ih others (Nat.le_of_succ_le_succ enough)
      fun more => stops (Nat.succ_lt_succ more)]
    rw [List.length_cons, Nat.add_assoc, Nat.add_comm 1]

/-- The count of hexadecimal digits in the escape of a letter. -/
def hexDigits? : Char → Option Nat
  | 'x' => some 2
  | 'u' => some 4
  | 'U' => some 8
  | _ => none

/-- An escape with hexadecimal digits is read as such. -/
theorem readEscape_of_hexDigits? {letter : Char} {count : Nat}
    (known : hexDigits? letter = some count) (reader : Reader) (start : Nat) (cursor : Cursor) :
    reader.readEscape letter start cursor = (readHexEscape letter count start cursor).map
      fun read => (reader.push (.char read.1), read.2) := by
  unfold hexDigits? at known
  split at known <;> cases known <;> rfl

/-- Digits without backslashes are tokens by themselves. -/
theorem Token.ofText_of_bare {text : Text} (bare : '\\' ∉ text) :
    ofText text = text.map .plain := by
  have tokens := Reader.ofText_append bare []
  rwa [List.append_nil, ofText, List.append_nil] at tokens

/-- An escape with the hexadecimal digits of a code point. -/
def Atom.coded (letter : Char) (digits : Text) (count : hexDigits? letter = some digits.length)
    (hex : ∀ c ∈ digits, Text.isHex c = true) (inside : Text.hexNumber digits < 0x110000) :
    Atom where
  text := '\\' :: letter :: digits
  expr := .char (Text.hexNumber digits)
  character := rfl
  given := List.cons_ne_nil _ _
  unsigned := startsUnsigned_escape _
  passed := (PassedOver.escape letter).append (.ofClass (by decide) hex)
  reads := by
    intro reader position rest _
    have bare : '\\' ∉ digits := fun found => absurd (hex _ found) (by decide)
    have cut : Token.ofText ('\\' :: letter :: digits) =
        .escaped letter :: digits.map .plain := by
      rw [Token.ofText_escape, Token.ofText_of_bare bare]
    have closed : Token.IsClosed ('\\' :: letter :: digits) := by
      rw [Token.IsClosed, cut]
      simp
    have taken : Cursor.takeWhile Text.isHex digits.length
        ⟨Token.ofText (digits ++ rest), position + 2⟩ =
          (digits, ⟨Token.ofText rest, position + 2 + digits.length⟩) :=
      Cursor.takeWhile_ofText (by decide) hex (Nat.le_refl _)
        (fun less => absurd less (Nat.lt_irrefl _)) _
    rw [Reader.ofText_append bare] at taken
    have read : readHexEscape letter digits.length position
        ⟨digits.map .plain ++ Token.ofText rest, position + 2⟩ =
          .ok (Text.hexNumber digits, ⟨Token.ofText rest, position + 2 + digits.length⟩) := by
      simp only [readHexEscape, taken]
      rw [if_neg (Nat.lt_irrefl _), if_pos inside]
    have known : reader.readToken (.escaped letter) position
        ⟨digits.map .plain ++ Token.ofText rest, position + 2⟩ =
          .ok (reader.push (.char (Text.hexNumber digits)),
            ⟨Token.ofText rest, position + 2 + digits.length⟩) :=
      (readEscape_of_hexDigits? count ..).trans (by rw [read]; rfl)
    exact Scan.reaches_text closed cut known rfl

/-! ## Sets -/

/-- A set is read as one character. -/
theorem isCharacter_of_readSet {start : Nat} {cursor after : Cursor} {expr : Expr}
    (read : readSet start cursor = .ok (expr, after)) : expr.isCharacter = true := by
  unfold readSet at read
  obtain ⟨items, -, last⟩ := exists_of_bind read
  simp only at last
  split at last <;> cases last <;> rfl

/-- A set that is read by itself. The scanner for groups takes the first bracket for the end of a
set, so there is none inside, or nothing else that has a meaning to the scanner. -/
def Atom.set (inner : Text) (expr : Expr) (place : Nat) (closed : Token.IsClosed inner)
    (read : readSet 0 ⟨Token.ofText (inner ++ [']']), 1⟩ = .ok (expr, ⟨[], place⟩))
    (paired : .plain ']' ∉ Token.ofText inner ∨
      ∀ token ∈ Token.ofText inner, token ∉ [.plain '(', .plain ')', .plain '[']) : Atom where
  text := '[' :: inner ++ [']']
  expr := expr
  character := isCharacter_of_readSet read
  given := List.cons_ne_nil _ _
  unsigned := by simp [StartsUnsigned]
  passed := PassedOver.set closed paired
  reads := by
    intro reader position rest shown
    have tokens : Token.ofText (inner ++ [']']) = Token.ofText inner ++ [.plain ']'] :=
      Token.ofText_append closed [']']
    have cut : Token.ofText ('[' :: inner ++ [']']) =
        .plain '[' :: (Token.ofText inner ++ [.plain ']']) := by
      rw [List.cons_append, Token.ofText_cons (by decide), tokens]
    have sound : Token.IsClosed ('[' :: inner ++ [']']) := by
      rw [Token.IsClosed, cut]
      simpa [Token.IsClosed] using closed
    obtain ⟨between, cut', -, -, reads⟩ := exists_inner_of_readSet read
    obtain rfl : Token.ofText inner = between := List.append_cancel_right (tokens.symm.trans cut')
    obtain ⟨after, found⟩ := reads (Token.ofText rest) position (position + 1)
    rw [List.append_cons] at found
    have known : reader.readToken (.plain '[') position
        ⟨Token.ofText inner ++ [.plain ']'] ++ Token.ofText rest, position + 1⟩ =
          .ok (reader.push expr, ⟨Token.ofText rest, after⟩) := by
      have opened : reader.readToken (.plain '[') position
          ⟨Token.ofText inner ++ [.plain ']'] ++ Token.ofText rest, position + 1⟩ =
            (readSet position ⟨Token.ofText inner ++ [.plain ']'] ++ Token.ofText rest,
              position + 1⟩ >>= fun read => pure (reader.push read.1, read.2)) := by
        simp [Reader.readToken, Reader.readChar, shown]
      rw [opened, found]
      rfl
    exact Scan.reaches_text sound cut known rfl

end RoutePattern.Regex
