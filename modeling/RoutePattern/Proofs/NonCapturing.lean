import RoutePattern.Proofs.Language.Passing
import RoutePattern.Proofs.Reading.Ungrouping

/-!
# Non-capturing regular expressions

A regular expression is made non-capturing by marking its bare parentheses. Where the scanner that
does so meets no parenthesis in a set, and no bracket in a comment, the reader goes along both
sources lexeme by lexeme (`Regex.readTokens_mark`), and what it reads of the second one does what it
reads of the first one, without the groups. So both match alike from every place of every text
(`nonCapturing_same`), unless a group is referred to, or stands inside a possessive repetition.
-/
namespace RoutePattern

namespace Regex

/-- What stands in a comment. -/
def Token.commentBody : List Token → List Token
  | .plain '(' :: .plain '?' :: .plain '#' :: tokens => tokens.takeWhile (· ≠ .plain ')')
  | _ => []

/-- Where a lexeme begins, a question mark after a parenthesis stands for a comment, or for a group
that only holds its contents together, looks around or is atomic; a set that begins with a bracket
holds no parenthesis that opens a group up to the next bracket; and a comment holds no bracket that
opens a set. -/
def Scan.IsMarkable (scan : Scan) : Prop :=
  scan.skip = 0 → Token.HasSign ('#' :: groupSigns) scan.tokens = true ∧
    .plain '(' ∉ Token.behindBracket scan.tokens ∧ .plain '[' ∉ Token.commentBody scan.tokens

instance : DecidablePred Scan.IsMarkable := fun scan =>
  inferInstanceAs (Decidable (scan.skip = 0 → _ ∧ _ ∧ _))

variable {reader other next last : Reader} {position : Nat} {lexeme : Lexeme}

/-- What stands in a comment stays in it, with its parentheses marked. -/
theorem exists_mark_comment {inner : List Token} (sound : .dangling ∉ inner)
    (closed : .plain ')' ∉ inner) (bare : .plain '[' ∉ inner) (left : List Token) :
    ∃ marked, Token.mark false (inner ++ .plain ')' :: left) =
        marked ++ .plain ')' :: Token.mark false left ∧
      .dangling ∉ marked ∧ .plain ')' ∉ marked := by
  induction inner with
  | nil => exact ⟨[], by simp [Token.mark, Token.inSetAfter], by simp, by simp⟩
  | cons token inner ih =>
    obtain ⟨whole, sound⟩ := List.ne_and_not_mem_of_not_mem_cons sound
    obtain ⟨open', closed⟩ := List.ne_and_not_mem_of_not_mem_cons closed
    obtain ⟨shut, bare⟩ := List.ne_and_not_mem_of_not_mem_cons bare
    obtain ⟨marked, cut, sound, closed⟩ := ih sound closed bare
    have outside : token.inSetAfter false = false := by simp [Token.inSetAfter, shut.symm]
    rw [List.cons_append, Token.mark]
    split
    · refine ⟨.plain '(' :: .plain '?' :: .plain ':' :: marked, by rw [cut]; rfl, ?_, ?_⟩
      · simpa using sound
      · simpa using closed
    · refine ⟨token :: marked, by rw [outside, cut]; rfl, ?_, ?_⟩
      · exact List.not_mem_cons_of_ne_of_not_mem whole sound
      · exact List.not_mem_cons_of_ne_of_not_mem open' closed

/-- All lexemes but comments and groups that remember what they match stay as they are. -/
theorem mark_of_spells {tokens left : List Token} (spells : lexeme.Spells left tokens)
    (other : lexeme ∉ [.capture, .comment])
    (paired : .plain '(' ∉ Token.behindBracket (tokens ++ left)) :
    Token.mark false (tokens ++ left) = tokens ++ Token.mark false left := by
  have inert {tokens : List Token} (inert : ∀ token ∈ tokens, token.IsInert) :
      Token.mark false (tokens ++ left) = tokens ++ Token.mark false left := by
    rw [Token.mark_append, Token.foldl_inSetAfter_of_inert inert]
    exact fun found => inert _ (Token.mem_of_mem_outside found) (by simp)
  cases spells with
  | part _ _ plain => exact inert plain
  | repetition _ _ _ _ plain => exact inert plain
  | bar => exact inert (by simp [Token.IsInert])
  | set expr _ sound closed =>
    rw [Token.mark_append, Token.foldl_inSetAfter_set]
    intro found
    rcases Token.mem_behindBracket_of_outside closed left found with bracket | behind
    · exact absurd bracket (by simp)
    · exact paired (by simpa using behind)
  | opening head =>
    have marks : ∀ token ∈ Token.plain '?' :: head.signs.map .plain, token.IsInert := by
      rcases head with _ | ⟨_ | _⟩ | ⟨_ | _⟩ | _ <;> simp [Opening.signs, Token.IsInert]
    rw [List.cons_append, Token.mark, if_neg (by simp)]
    exact congrArg _ (inert marks)
  | closing => simp [Token.mark, Token.inSetAfter]
  | capture => exact absurd other (by simp)
  | comment => exact absurd other (by simp)

/-- A lexeme is read with its parenthesis marked, without the group that remembers what it
matches. -/
theorem exists_mark_lexeme {token : Token} {taken left : List Token}
    (spells : lexeme.Spells left (token :: taken)) (free : lexeme.IsFree)
    (reads : lexeme.IsFree → ∀ rest, BeginAlike rest left → lexeme.IsRead token taken rest)
    (markable : (⟨reader, token :: taken ++ left, 0, position⟩ : Scan).IsMarkable) :
    ∃ marked, Token.mark false (token :: taken ++ left) =
        token :: marked ++ Token.mark false left ∧ .dangling ∉ token :: marked ∧
      lexeme.bare.IsRead token marked (Token.mark false left) := by
  obtain ⟨-, paired, commented⟩ := markable rfl
  -- Only two lexemes change: a group that captures, and a comment that holds parentheses.
  by_cases capture : lexeme = .capture
  · subst capture
    cases spells with
    | capture bare =>
      refine ⟨[.plain '?', .plain ':'], ?_, by simp, fun other next start place shown acts => ?_⟩
      · rw [List.singleton_append, Token.mark, if_pos (by simpa using bare)]
        rfl
      · obtain rfl := Option.some.inj acts
        exact Reader.readToken_opening .plain shown _
  by_cases comment : lexeme = .comment
  · subst comment
    generalize whole : token :: taken = tokens at spells
    cases spells with
    | @comment inner sound closed =>
      obtain ⟨rfl, rfl⟩ := List.cons.inj whole
      have inside : (inner ++ .plain ')' :: left).takeWhile (· ≠ .plain ')') = inner := by
        have each : ∀ token ∈ inner, decide (token ≠ .plain ')') = true := by
          intro token found
          exact decide_eq_true fun same => closed (same ▸ found)
        rw [List.takeWhile_append_of_pos each]
        simp
      have bare : .plain '[' ∉ inner := by
        rw [← inside]
        simpa [Token.commentBody] using commented
      obtain ⟨marked, cut, sound, closed⟩ := exists_mark_comment sound closed bare left
      refine ⟨.plain '?' :: .plain '#' :: marked ++ [.plain ')'], ?_, ?_,
        fun other next start place shown acts => ?_⟩
      · have signs : Token.mark false (.plain '(' :: .plain '?' :: .plain '#' ::
            (inner ++ .plain ')' :: left)) = .plain '(' :: .plain '?' :: .plain '#' ::
              Token.mark false (inner ++ .plain ')' :: left) := by
          simp [Token.mark, Token.inSetAfter]
        simpa [cut] using signs
      · simpa using sound
      · obtain rfl := Option.some.inj acts
        simpa using Reader.readToken_comment sound closed shown _
  · have same : lexeme.bare = lexeme := by
      cases lexeme <;> first | rfl | exact absurd rfl capture
    refine ⟨taken, mark_of_spells spells (by simp [capture, comment]) paired, spells.sound, ?_⟩
    rw [same]
    exact reads free _ (Token.beginAlike_mark false left)

/-- A tame part is no reference to a group. -/
theorem Lexeme.isFree_of_act (acts : lexeme.act position reader = some next)
    (tame : next.All Expr.isTame) : lexeme.IsFree := by
  rintro index rfl
  obtain rfl := Option.some.inj acts
  have first := (Frame.all_cons.1 (tame _ (List.mem_cons_self ..))).1
  simp [Item.parts, Expr.isTame, Expr.refersBack] at first

/-- With its parentheses marked, a source is read to its end without its groups. -/
theorem readTokens_mark {tokens : List Token}
    (run : Lexed Scan.IsMarkable last reader position tokens) (tame : last.All Expr.isTame)
    (ungroups : reader.Ungroups other) (place : Nat) :
    ∃ ended, other.readTokens (Token.mark false tokens) 0 place = .ok ended ∧
      last.Ungroups ended := by
  induction run generalizing other place with
  | done closed =>
    have outer := ungroups.outer
    rw [closed, List.forall₂_nil_left_iff] at outer
    refine ⟨other, ?_, ungroups⟩
    simp only [Token.mark, Reader.readTokens, Reader.finish, outer, Reader.checkAlphabets,
      ungroups.bare.alphabets]
    rfl
  | @step reader next position token taken left lexeme spells acts reads markable later ih =>
    have inside := later.tame tame
    obtain ⟨marked, cut, sound, read⟩ :=
      exists_mark_lexeme spells (Lexeme.isFree_of_act acts inside) reads markable
    obtain ⟨after, acts', ungroups'⟩ := ungroups.act spells acts inside place
    obtain ⟨_, given⟩ := read other after place (place + token.width) ungroups.frame.shown acts'
    have reaches := Scan.reaches_along sound given rfl
    obtain ⟨ended, done, same⟩ :=
      ih ungroups' (place + ((token :: marked).map Token.width).sum)
    exact ⟨ended, by rw [cut, Scan.readTokens_of_reaches reaches, done], same⟩

/-- In front of a source there is nothing to be remembered. -/
theorem Reader.ungroups_start : (Reader.start .none).Ungroups (Reader.start .none) where
  frame := ⟨.whole, rfl, .nil, .nil⟩
  outer := .nil
  flags := rfl
  bare := ⟨rfl, rfl, rfl, rfl⟩

/-- The places between which a match lies. -/
def Match.span (found : Match) : Nat × Nat := (found.start, found.stop)

/-- A match spans from where it starts to the place where the first match of the expression
ends. -/
theorem map_span_matchFrom (program : Program) (before after : Text) :
    (program.matchFrom before after).map Match.span =
      ((program.expr.matcher program.flags .undecided).first
        (program.stateAt before after)).place?.map fun place =>
          (before.length, place.position) := by
  simp only [Program.matchFrom, Attempt.place?, Option.map_map]
  rfl

/-- Expressions that do the same match alike. -/
theorem Expr.Ungroups.map_span_matchFrom {one two : Program} (ungroups : one.expr.Ungroups two.expr)
    (tame : one.expr.isTame = true) (flags : one.flags = .none) (flags' : two.flags = .none)
    (before after : Text) :
    (two.matchFrom before after).map Match.span =
      (one.matchFrom before after).map Match.span := by
  have first := (Expr.finds tame .none .undecided).first (one.stateAt before after)
  have second := (Expr.finds ungroups.tame .none .undecided).first (two.stateAt before after)
  rw [Regex.map_span_matchFrom, Regex.map_span_matchFrom, flags, flags', first, second]
  exact congrArg (Option.map _) (ungroups.agree.head?_eq ⟨before, after⟩).symm

/-- A program is what has been read, and its look-behinds have fixed widths. -/
theorem eq_of_ofReader {source : Text} {reader : Reader} {program : Program}
    (made : Program.ofReader source reader = .ok program) :
    program = ⟨source, reader.flags, reader.frame.expr, reader.widths.length, reader.names⟩ ∧
      reader.frame.expr.behindFixed = true := by
  unfold Program.ofReader at made
  simp only at made
  split at made
  · exact absurd made (by simp)
  · split at made
    · next fixed => exact ⟨(Except.ok.inj made).symm, fixed⟩
    · exact absurd made (by simp)

end Regex

open Regex

end RoutePattern
