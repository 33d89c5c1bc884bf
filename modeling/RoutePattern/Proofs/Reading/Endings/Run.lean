import RoutePattern.Proofs.Reading.Endings.Token
import RoutePattern.Proofs.Reading.Ground

/-!
# Sources with two endings

If one text compiles with either of two endings, both sources are read alike up to the ending: one
reader is reached in front of both (`exists_shared`). A comment that swallows an ending leaves no
sound source in both cases, as long as the endings stand apart (`Apart`).
-/
namespace RoutePattern.Regex

open Reader (Parallel afterComment)
open Scan (facing)

/-- If a comment can go on into the first ending, it leaves nothing of this one, and a closing
parenthesis of the other. -/
def Apart (one two : Text) : Prop :=
  ')' ∈ one → afterComment one = [] ∧ ∃ rest, afterComment two = ')' :: rest

/-- No comment leaves an ending that has no closing parenthesis. -/
theorem Apart.of_not_mem {one two : Text} (free : ')' ∉ one) : Apart one two :=
  fun closes => absurd closes free

/-! ## Texts whose tokens are their own -/

namespace Token

/-- A text does not end in the middle of an escape. -/
def IsClosed (text : Text) : Prop := .dangling ∉ ofText text

instance : DecidablePred IsClosed := fun text => inferInstanceAs (Decidable (¬.dangling ∈ ofText text))

/-- The tokens of a text with another one after it. -/
theorem ofText_append {text : Text} (closed : IsClosed text) (rest : Text) :
    ofText (text ++ rest) = ofText text ++ ofText rest := by
  fun_induction ofText text with
  | case1 => rfl
  | case2 => exact absurd (List.mem_singleton_self _) closed
  | case3 c text ih =>
    rw [List.cons_append, List.cons_append, ofText_escape, ih]
    · rfl
    · intro found
      exact closed (by rw [ofText_escape]; exact List.mem_cons_of_mem _ found)
  | case4 c text alone bare ih =>
    have plain : c ≠ '\\' := ne_backslash alone bare
    rw [List.cons_append, ofText_cons plain, ih]
    · rfl
    · intro found
      exact closed (by rw [ofText_cons plain]; exact List.mem_cons_of_mem _ found)

/-- One closed text after the other. -/
theorem IsClosed.append {one two : Text} (first : IsClosed one) (second : IsClosed two) :
    IsClosed (one ++ two) := by
  intro found
  rw [ofText_append first] at found
  rcases List.mem_append.1 found with here | there
  · exact first here
  · exact second there

/-- A text that does not end in a backslash is closed. -/
theorem isClosed_of_getLast? {text : Text} (other : text.getLast? ≠ some '\\') : IsClosed text := by
  unfold IsClosed
  fun_induction ofText text with
  | case1 => exact List.not_mem_nil
  | case2 => exact absurd rfl other
  | case3 c text ih =>
    intro found
    refine ih (fun last => other ?_)
      ((List.mem_cons.1 found).resolve_left (escaped_ne_dangling c).symm)
    rw [List.getLast?_cons_cons, List.getLast?_cons, last]
    rfl
  | case4 c text alone bare ih =>
    intro found
    refine ih (fun last => other ?_)
      ((List.mem_cons.1 found).resolve_left (plain_ne_dangling c).symm)
    rw [List.getLast?_cons, last]
    rfl

/-- An ending is taken character by character. -/
theorem ofText_ending {text : Text} (ending : IsEnding text) : ofText text = endingTokens text := by
  have cut := Reader.ofText_append ending.bare []
  rw [List.append_nil] at cut
  rw [cut, ofText, List.append_nil]
  rfl

/-- A text is as wide as its tokens. -/
theorem sum_width_ofText (text : Text) : ((ofText text).map width).sum = text.length := by
  have each (token : Token) : token.width = token.text.length := by cases token <;> rfl
  conv_rhs => rw [← flatMap_text_ofText text]
  rw [List.length_flatMap]
  congr 1
  exact List.map_congr_left fun token _ => each token

end Token

/-! ## Runs -/

/-- Tokens that have been read along are passed over. -/
theorem Reader.readTokens_drop {tokens : List Token} {skip position : Nat} {reader last : Reader}
    (read : readTokens tokens skip position reader = .ok last) :
    ∃ place, readTokens (tokens.drop skip) 0 place reader = .ok last := by
  induction tokens generalizing skip position with
  | nil => exact ⟨position, by simpa [readTokens] using read⟩
  | cons token tokens ih =>
    cases skip with
    | zero => exact ⟨position, read⟩
    | succ skip =>
      cases token with
      | dangling => exact absurd read (by simp [readTokens])
      | plain c => exact ih (by rwa [readTokens] at read; exact Token.plain_ne_dangling c)
      | escaped c => exact ih (by rwa [readTokens] at read; exact Token.escaped_ne_dangling c)

/-- Where both sources are read to their end, no comment swallows an ending. -/
theorem Reader.Parallel.same_of_read {one two : Text} (apart : Apart one two) {flags : Flags}
    {reader last last' : Reader} (begun : reader.Begun flags) {value other : Reader × Cursor}
    (parallel : Parallel one two reader value other) {left : List Token} {place : Nat}
    (read : Reader.readTokens (left ++ endingTokens one)
      ((left ++ endingTokens one).length - value.2.tokens.length) place value.1 = .ok last)
    (read' : Reader.readTokens (left ++ endingTokens two)
      ((left ++ endingTokens two).length - other.2.tokens.length) place other.1 = .ok last') :
    Same one two value other := by
  have alone (kept : value.1 = reader) (nothing : value.2.tokens = []) : reader.outer = [] := by
    obtain ⟨place, finish⟩ := readTokens_drop read
    rw [nothing, List.length_nil, Nat.sub_zero, List.drop_length, kept] at finish
    exact (eq_of_finish finish).2
  -- A comment to the end of the line needs a verbose group, and none is open at the end; a comment
  -- in parentheses leaves one of them over behind the ending.
  cases parallel with
  | same same => exact same
  | line verbose kept nothing =>
    have ground := begun.verbose
    rw [Reader.ground, alone kept nothing, List.getLastD_nil, verbose] at ground
    exact absurd ground (by decide)
  | comment closes kept kept' rest rest' =>
    obtain ⟨nothing, after, closing⟩ := apart closes
    rw [nothing] at rest
    rw [closing] at rest'
    have outermost := alone kept rest
    have suffix : endingTokens (afterComment two) <:+ left ++ endingTokens two :=
      (((List.tail_suffix _).trans (List.dropWhile_suffix _)).map _).trans
        (List.suffix_append ..)
    obtain ⟨place, finish⟩ := readTokens_drop read'
    rw [closing] at suffix
    rw [rest', ← List.suffix_iff_eq_drop.1 suffix, kept', endingTokens, List.map_cons,
      readTokens] at finish
    · cases sound : reader.checkAlphabets <;>
        simp [readToken, readClosing, outermost, sound, bind, Except.bind] at finish
    · exact Token.plain_ne_dangling ')'

/-- Where the rest of a source is read with two endings, one reader is reached in front of both. -/
theorem Scan.exists_shared {one two : Text} (ending : IsEnding one) (ending' : IsEnding two)
    (apart : Apart one two) {flags : Flags} {left : List Token} {skip position : Nat}
    {reader last last' : Reader} (inside : skip ≤ left.length) (begun : reader.Begun flags)
    (read : Reader.readTokens (left ++ endingTokens one) skip position reader = .ok last)
    (read' : Reader.readTokens (left ++ endingTokens two) skip position reader = .ok last') :
    ∃ next, Reaches ⟨reader, left ++ endingTokens one, skip, position⟩
        ⟨next, endingTokens one, 0, position + (left.map Token.width).sum⟩ ∧
      Reaches ⟨reader, left ++ endingTokens two, skip, position⟩
        ⟨next, endingTokens two, 0, position + (left.map Token.width).sum⟩ := by
  induction left generalizing skip position reader with
  | nil =>
    obtain rfl := Nat.le_zero.1 inside
    exact ⟨reader, .refl, .refl⟩
  | cons token left ih =>
    by_cases dangling : token = .dangling
    · subst dangling
      exact absurd read (by simp [Reader.readTokens])
    rw [List.map_cons, List.sum_cons, ← Nat.add_assoc]
    rw [List.cons_append] at read read' ⊢
    cases skip with
    | succ skip =>
      rw [Reader.readTokens] at read read'
      · obtain ⟨next, first, second⟩ := ih (Nat.le_of_succ_le_succ inside) begun read read'
        exact ⟨next, .head (Scan.next?_passed dangling) first, .head (Scan.next?_passed dangling) second⟩
      · exact dangling
      · exact dangling
    | zero =>
      have beside : Beside one two ⟨left ++ endingTokens one, position + token.width⟩
          ⟨left ++ endingTokens two, position + token.width⟩ := ⟨left, _, rfl, rfl⟩
      have agrees := Reader.agrees_readToken ending ending' beside reader token position
      rw [Reader.readTokens] at read read'
      · obtain ⟨value, found, rest⟩ := exists_of_bind read
        obtain ⟨other, found', rest'⟩ := exists_of_bind read'
        have parallel := agrees.related_of_ok value other found found'
        -- That no comment swallows the endings needs both sources to be read to their end.
        obtain ⟨same, later⟩ := parallel.same_of_read apart begun rest rest'
        obtain ⟨less, equal⟩ := later.length_sub left
        have effect := (Reader.readToken_effect ..).holds_of_ok value found
        obtain ⟨next, reaches, reaches'⟩ := ih less (begun.effect effect) rest
          (by rw [equal, same]; exact rest')
        rw [same, equal] at reaches'
        exact ⟨next, .head (Scan.next?_taking dangling found) reaches,
          .head (Scan.next?_taking dangling found') reaches'⟩
      · exact dangling
      · exact dangling

/-- If a text compiles with two endings, one reader is reached in front of both. -/
theorem exists_facing {one two front : Text} (ending : IsEnding one) (ending' : IsEnding two)
    (apart : Apart one two) (closed : Token.IsClosed front) {flags : Flags} {position : Nat}
    {reader last last' : Reader} (begun : reader.Begun flags)
    (read : Reader.readTokens (Token.ofText (front ++ one)) 0 position reader = .ok last)
    (read' : Reader.readTokens (Token.ofText (front ++ two)) 0 position reader = .ok last') :
    ∃ next, (facing reader position (front ++ one)).Reaches
        (facing next (position + front.length) one) ∧
      (facing reader position (front ++ two)).Reaches
        (facing next (position + front.length) two) := by
  rw [Token.ofText_append closed, Token.ofText_ending ending] at read
  rw [Token.ofText_append closed, Token.ofText_ending ending'] at read'
  obtain ⟨next, reaches, reaches'⟩ :=
    Scan.exists_shared ending ending' apart (Nat.zero_le _) begun read read'
  rw [Token.sum_width_ofText] at reaches reaches'
  refine ⟨next, ?_, ?_⟩
  · rw [facing, facing, Token.ofText_append closed, Token.ofText_ending ending]
    exact reaches
  · rw [facing, facing, Token.ofText_append closed, Token.ofText_ending ending']
    exact reaches'

end RoutePattern.Regex
