import RoutePattern.Proofs.Reading.Lexeme

/-!
# Tokens that are read as lexemes

Outside of comments that end with their line, and away from named groups, conditions and flags,
every token that is read is read as one lexeme, with those that are read along
(`lexes_readToken`).
-/
namespace RoutePattern.Regex

namespace Reader

variable {reader next : Reader} {position start : Nat} {token : Token} {tokens left : List Token}
  {cursor after : Cursor}

/-! ## Sets -/

/-- A set. -/
theorem lexes_readSet {expr : Expr} (read : readSet position cursor = .ok (expr, after)) :
    reader.Lexes position (.plain '[') cursor.tokens (reader.push expr) after.tokens := by
  obtain ⟨inner, cut, sound, closed, reads⟩ := exists_inner_of_readSet read
  refine ⟨.part expr, inner ++ [.plain ']'], by rw [cut, List.append_assoc]; rfl,
    .set expr (isPlain_of_readSet read) sound closed, rfl,
    fun _ rest _ other next start place shown acts => ?_⟩
  obtain rfl := Option.some.inj acts
  obtain ⟨last, given⟩ := reads rest start place
  refine ⟨last, ?_⟩
  simp only [List.append_assoc, List.singleton_append, readToken, readChar, shown, Bool.false_and,
    Bool.false_eq_true, if_false, given]
  rfl

/-! ## Repetitions -/

/-- A sign is taken. -/
theorem takes_sign {c : Char} (inner : (Token.plain c).IsInner)
    (starts : cursor.startsWith c = true) :
    Takes (fun _ one two => one.startsWith c = true ∧ one.next = two) cursor.tokens
      cursor.next.tokens := by
  obtain ⟨tokens, position⟩ := cursor
  cases tokens with
  | nil => exact absurd starts (by simp [Cursor.startsWith])
  | cons token tokens =>
    obtain rfl : token = .plain c := by simpa [Cursor.startsWith] using starts
    exact .one inner (fun _ tokens position => ⟨_, by simp [Cursor.startsWith], rfl⟩) tokens

/-- What the next token says about the appetite of a repetition, and the cursor after that. -/
def appetite (cursor : Cursor) : Appetite × Cursor :=
  if cursor.startsWith '?' then (.lazy, cursor.next)
  else if cursor.startsWith '+' then (.possessive, cursor.next)
  else (.greedy, cursor)

/-- The latest item is repeated with the appetite that the next token asks for. -/
theorem repeatLatest_eq_ok {least : Nat} {most : Option Nat} (place : Nat) :
    reader.repeatLatest least most position cursor = .ok (next, after) ↔
      (Lexeme.repetition least most (appetite cursor).1).act place reader = some next ∧
        (appetite cursor).2 = after := by
  rw [Lexeme.act_repetition_eq]
  unfold repeatLatest
  split
  · next none => simp [none, Cursor.fail_ne_ok]
  · next anchored => simp [anchored, Item.isRepeatable, Cursor.fail_ne_ok]
  · next looped => simp [looped, Item.isRepeatable, Cursor.fail_ne_ok]
  · next item items anchored looped cut =>
    have free : item.isRepeatable = true := Item.isRepeatable_of_ne anchored looped
    simp only [cut, List.cons.injEq, Except.ok.injEq, Prod.mk.injEq]
    constructor
    · rintro ⟨rfl, rfl⟩
      exact ⟨⟨item, items, ⟨rfl, rfl⟩, free, rfl⟩, rfl⟩
    · rintro ⟨⟨_, _, ⟨rfl, rfl⟩, -, rfl⟩, rfl⟩
      exact ⟨rfl, rfl⟩

/-- The sign for the appetite is taken. -/
theorem takes_appetite (cursor : Cursor) :
    Takes (fun _ one two => appetite one = ((appetite cursor).1, two)) cursor.tokens
      (appetite cursor).2.tokens := by
  -- In the order of the tests: each later answer needs that the earlier signs are missing.
  have one {c : Char} {appetite : Appetite} (inner : (Token.plain c).IsInner)
      (starts : cursor.startsWith c = true)
      (found : ∀ one : Cursor, one.startsWith c = true →
        Reader.appetite one = (appetite, one.next)) :
      Takes (fun _ one two => Reader.appetite one = (appetite, two)) cursor.tokens
        cursor.next.tokens :=
    (takes_sign inner starts).imp fun _ one _ sign => sign.2 ▸ found one sign.1
  by_cases lazy : cursor.startsWith '?' = true
  · have found : ∀ one : Cursor, one.startsWith '?' = true → appetite one = (.lazy, one.next) := by
      intro one starts
      rw [appetite, if_pos starts]
    rw [found cursor lazy]
    exact one ⟨_, rfl, by decide⟩ lazy found
  by_cases possessive : cursor.startsWith '+' = true
  · have found : ∀ one : Cursor, one.startsWith '+' = true →
        appetite one = (.possessive, one.next) := by
      intro one starts
      have other : one.startsWith '?' = false := by
        simp only [Cursor.startsWith, beq_iff_eq] at starts
        simp [Cursor.startsWith, starts]
      rw [appetite, other, if_neg Bool.false_ne_true, if_pos starts]
    rw [found cursor possessive]
    exact one ⟨_, rfl, by decide⟩ possessive found
  · have found : ∀ one : Cursor, one.tokens.head? = cursor.tokens.head? →
        appetite one = (.greedy, one) := by
      intro one same
      have alike (c : Char) : one.startsWith c = cursor.startsWith c := by
        rw [Cursor.startsWith, same, Cursor.startsWith]
      rw [appetite, alike, alike, if_neg lazy, if_neg possessive]
    rw [found cursor rfl]
    exact ⟨[], rfl, by simp, fun rest _ position same => ⟨position, found _ same⟩⟩

/-- A sign that repeats the latest item. -/
theorem lexes_repeatLatest {c : Char} {least : Nat} {most : Option Nat}
    (ordered : most.all (least ≤ ·) = true) (inert : (Token.plain c).IsInert)
    (sign : ∀ other : Reader, other.frame.verbose = false → ∀ start one,
      other.readToken (.plain c) start one = other.repeatLatest least most start one)
    (read : reader.repeatLatest least most position cursor = .ok (next, after)) :
    reader.Lexes position (.plain c) cursor.tokens next after.tokens := by
  obtain ⟨acts, rfl⟩ := (repeatLatest_eq_ok position).1 read
  refine .ofTakes inert (fun _ => .repetition least most _ ordered) acts
    ((takes_appetite cursor).imp ?_)
  intro start one two found other next shown acts
  rw [sign other shown]
  exact (repeatLatest_eq_ok _).2 ⟨by rw [found]; exact acts, by rw [found]⟩

/-! ## Counts -/

/-- From enough tokens on, the limit does not matter. -/
theorem takeWhile_limit {accepts : Char → Bool} {limit more : Nat} {cursor : Cursor}
    (far : cursor.tokens.length ≤ limit) (farther : cursor.tokens.length ≤ more) :
    cursor.takeWhile accepts limit = cursor.takeWhile accepts more := by
  obtain ⟨tokens, position⟩ := cursor
  induction tokens generalizing limit more position with
  | nil => cases limit <;> cases more <;> rfl
  | cons token tokens ih =>
    obtain ⟨limit, rfl⟩ := Nat.exists_eq_add_of_le' (Nat.le_trans (Nat.succ_pos _) far)
    obtain ⟨more, rfl⟩ := Nat.exists_eq_add_of_le' (Nat.le_trans (Nat.succ_pos _) farther)
    unfold Cursor.takeWhile
    split
    · next c rest here =>
      obtain ⟨rfl, rfl⟩ := List.cons.inj here
      rw [ih _ (Nat.le_of_succ_le_succ far) (Nat.le_of_succ_le_succ farther)]
    · rfl

/-- All digits in front of the next other token are taken. -/
theorem takes_digits {limit : Nat} {chars : Text} (far : cursor.tokens.length ≤ limit)
    (found : cursor.takeWhile Char.isDigit limit = (chars, after)) :
    Takes (fun _ one two => ∀ limit, one.tokens.length ≤ limit →
      one.takeWhile Char.isDigit limit = (chars, two)) cursor.tokens after.tokens := by
  obtain ⟨taken, cut, inner, -⟩ := takes_takeWhile (by decide) found
  refine ⟨taken, cut, inner, fun rest start position same => ?_⟩
  -- A limit that is far enough for both takes the same tokens.
  let farthest := max limit (taken ++ rest).length
  have found : cursor.takeWhile Char.isDigit farthest = (chars, after) := by
    rw [takeWhile_limit (Nat.le_trans far (Nat.le_max_left _ _)) far, found]
  obtain ⟨taken', cut', -, reads⟩ := takes_takeWhile (by decide) found
  obtain rfl : taken' = taken := List.append_cancel_right (cut'.symm.trans cut)
  obtain ⟨place, given⟩ := reads rest start position same
  refine ⟨place, fun limit near => ?_⟩
  rw [takeWhile_limit near (Nat.le_max_right _ _), given]

/-- The cursor after one token has no more tokens in front of it. -/
theorem length_next (cursor : Cursor) : cursor.next.tokens.length ≤ cursor.tokens.length := by
  obtain ⟨tokens, position⟩ := cursor
  cases tokens with
  | nil => exact Nat.le_refl _
  | cons token tokens => exact Nat.le_succ _

/-- Two counts between braces. -/
theorem takes_braceCounts? {least most : Text}
    (found : braceCounts? cursor = some (least, most, after)) :
    Takes (fun _ one two => braceCounts? one = some (least, most, two)) cursor.tokens
      after.tokens := by
  unfold braceCounts? at found
  split at found
  · exact absurd found (by simp)
  next bare =>
  have unclosed {one : Cursor} (same : one.tokens.head? = cursor.tokens.head?) :
      ¬one.startsWith '\x7d' = true := by
    rwa [Cursor.startsWith, same]
  -- The limit of a row of digits is the number of tokens left, which differs with what comes
  -- after; so what is taken has to be known for every limit that is large enough.
  cases first : cursor.takeWhile Char.isDigit cursor.tokens.length with
  | mk digits middle =>
  have digitsTaken := (takes_digits (Nat.le_refl _) first).also
  simp only [first] at found
  split at found
  · next comma =>
    cases second : middle.next.takeWhile Char.isDigit cursor.tokens.length with
    | mk others last =>
    simp only [second] at found
    split at found
    · next closed =>
      obtain ⟨rfl, rfl, rfl⟩ : digits = least ∧ others = most ∧ last.next = after := by
        simpa using found
      have shorter : middle.next.tokens.length ≤ cursor.tokens.length := by
        obtain ⟨taken, cut, -⟩ := digitsTaken
        rw [cut, List.length_append]
        exact Nat.le_trans (length_next middle) (Nat.le_add_left _ _)
      have later : Takes (fun _ one two => ∀ limit, one.tokens.length ≤ limit → ∃ third : Cursor,
          one.takeWhile Char.isDigit limit = (others, third) ∧ third.startsWith '\x7d' = true ∧
            third.next = two) middle.next.tokens last.next.tokens :=
        (takes_digits shorter second).append (takes_sign ⟨_, rfl, by decide⟩ closed)
          fun _ _ two _ digits sign limit far => ⟨two, digits limit far, sign⟩
      have separated : Takes (fun _ one two => one.startsWith ',' = true ∧
          ∀ limit, one.tokens.length ≤ limit → ∃ third : Cursor,
            one.next.takeWhile Char.isDigit limit = (others, third) ∧
              third.startsWith '\x7d' = true ∧ third.next = two) middle.tokens last.next.tokens :=
        (takes_sign ⟨_, rfl, by decide⟩ comma).append later fun _ one _ _ sign later =>
          ⟨sign.1, fun limit far =>
            sign.2 ▸ later limit (sign.2 ▸ Nat.le_trans (length_next one) far)⟩
      refine digitsTaken.append separated fun _ one two three digits separated => ?_
      obtain ⟨digits, same, near⟩ := digits
      obtain ⟨sign, later⟩ := separated
      obtain ⟨third, more, closed, rfl⟩ := later _ near
      simp only [braceCounts?, if_neg (unclosed same), digits _ (Nat.le_refl _), sign, if_true,
        more, closed]
    · exact absurd found (by simp)
  · next single =>
    split at found
    · next closed =>
      obtain ⟨rfl, rfl, rfl⟩ : digits = least ∧ digits = most ∧ middle.next = after := by
        simpa using found
      refine digitsTaken.append (takes_sign ⟨_, rfl, by decide⟩ closed) ?_
      rintro - one two three ⟨digits, same, -⟩ ⟨closed, rfl⟩
      have single : two.startsWith ',' = false := by
        simp only [Cursor.startsWith, beq_iff_eq] at closed
        simp [Cursor.startsWith, closed]
      simp only [braceCounts?, if_neg (unclosed same), digits _ (Nat.le_refl _), single,
        Bool.false_eq_true, if_false, closed, if_true]
    · exact absurd found (by simp)

/-- A count hangs on its digits alone. -/
theorem readCount_of_ok {digits : Text} {count : Nat} (read : readCount digits after = .ok count)
    (other : Cursor) : readCount digits other = .ok count := by
  unfold readCount at read ⊢
  split
  · next large =>
    rw [if_pos large] at read
    exact absurd read (Cursor.refuse_ne_ok _ _ _)
  · next large =>
    rw [if_neg large] at read
    dsimp only at read ⊢
    split
    · next large' =>
      rw [if_pos large'] at read
      exact absurd read (Cursor.refuse_ne_ok _ _ _)
    · next large' => rwa [if_neg large'] at read

/-- The least count of a repetition, which need not be written. -/
def leastCount (digits : Text) (after : Cursor) : Except Refusal Nat :=
  if digits.isEmpty then pure 0 else readCount digits after

/-- The greatest count of a repetition, which need not be written. -/
def mostCount (digits : Text) (after : Cursor) : Except Refusal (Option Nat) :=
  if digits.isEmpty then pure none else some <$> readCount digits after

/-- Counts between braces are read one after the other. -/
theorem readBraces_eq {least most : Text} (reader : Reader) (position : Nat)
    (counts : braceCounts? cursor = some (least, most, after)) :
    reader.readBraces position cursor =
      leastCount least after >>= fun least => mostCount most after >>= fun most =>
        if most.any (· < least) then after.fail .repeatBoundsReversed cursor.position
        else reader.repeatLatest least most position after := by
  rw [readBraces, counts, leastCount, mostCount]
  dsimp only
  split <;> split <;> rfl

/-- The least count hangs on its digits alone. -/
theorem leastCount_of_ok {digits : Text} {count : Nat} (read : leastCount digits after = .ok count)
    (other : Cursor) : leastCount digits other = .ok count := by
  unfold leastCount at read ⊢
  split at read
  · next empty => rwa [if_pos empty]
  · next written => rw [if_neg written, readCount_of_ok read]

/-- The greatest count hangs on its digits alone. -/
theorem mostCount_of_ok {digits : Text} {count : Option Nat}
    (read : mostCount digits after = .ok count) (other : Cursor) :
    mostCount digits other = .ok count := by
  unfold mostCount at read ⊢
  split at read
  · next empty => rwa [if_pos empty]
  · next written =>
    rw [if_neg written]
    cases number : readCount digits after with
    | error refusal =>
      rw [number] at read
      exact absurd read (by simp)
    | ok number =>
      rw [number] at read
      rw [readCount_of_ok number, read]

/-- A quantifier of braces, or a brace that stands for itself. -/
theorem lexes_readBraces (read : reader.readBraces position cursor = .ok (next, after)) :
    reader.Lexes position (.plain '\x7b') cursor.tokens next after.tokens := by
  have token (other : Reader) (shown : other.frame.verbose = false) start one :
      other.readToken (.plain '\x7b') start one = other.readBraces start one := by
    simp [readToken, readChar, shown]
  cases counts : braceCounts? cursor with
  | none =>
    rw [readBraces, counts] at read
    obtain ⟨rfl, rfl⟩ := Prod.mk.inj (Except.ok.inj read)
    refine ⟨.part (.char '\x7b'.toNat), [], rfl, .part _ rfl (by simp [Token.IsInert]), rfl,
      fun _ rest alike other next start place shown acts => ⟨place, ?_⟩⟩
    -- Counts that appeared with other tokens behind the brace would be there with these as well.
    have bare : braceCounts? ⟨rest, place⟩ = none := by
      cases counted : braceCounts? ⟨rest, place⟩ with
      | none => rfl
      | some found =>
        obtain ⟨more, same⟩ := (takes_braceCounts? counted).alike alike.symm
        obtain ⟨last, given⟩ := same 0 cursor.position
        exact absurd (counts.symm.trans given) (by simp)
    obtain rfl := Option.some.inj acts
    rw [token other shown, List.nil_append, readBraces, bare]
  | some found =>
    obtain ⟨leastDigits, mostDigits, last⟩ := found
    rw [readBraces_eq reader position counts] at read
    obtain ⟨least, leastRead, read⟩ := exists_of_bind read
    obtain ⟨most, mostRead, read⟩ := exists_of_bind read
    split at read
    · exact absurd read (Cursor.fail_ne_ok _ _ _ _)
    next ordered =>
    have bounds : most.all (least ≤ ·) = true := by
      cases most with
      | none => rfl
      | some most => simpa using ordered
    obtain ⟨acts, rfl⟩ := (repeatLatest_eq_ok position).1 read
    refine .ofTakes (by simp [Token.IsInert]) (fun _ => .repetition least most _ bounds) acts
      ((takes_braceCounts? counts).append (takes_appetite last) ?_)
    intro start one two three counts found other next shown acts
    rw [token other shown, readBraces_eq other start counts, leastCount_of_ok leastRead two,
      mostCount_of_ok mostRead two]
    simp only [bind, Except.bind, if_neg ordered]
    exact (repeatLatest_eq_ok _).2 ⟨by rw [found]; exact acts, by rw [found]⟩

/-! ## Comments -/

/-- A comment goes over a token that does not end it. -/
theorem skipComment_cons {token : Token} (sound : token ≠ .dangling) (start : Nat)
    (tokens : List Token) (position : Nat) :
    skipComment start (token :: tokens) position =
      if token == .plain ')' then .ok ⟨tokens, position + token.width⟩
      else skipComment start tokens (position + token.width) := by
  rw [skipComment]
  exact sound

/-- A comment takes what is in front of the next closing parenthesis. -/
theorem exists_inner_of_skipComment {tokens : List Token}
    (read : skipComment start tokens position = .ok after) :
    ∃ inner, tokens = inner ++ .plain ')' :: after.tokens ∧ .dangling ∉ inner ∧
      .plain ')' ∉ inner := by
  induction tokens generalizing position with
  | nil => exact absurd read (Cursor.fail_ne_ok _ _ _ _)
  | cons token tokens ih =>
    by_cases dangling : token = .dangling
    · subst dangling
      exact absurd read (Cursor.fail_ne_ok _ _ _ _)
    rw [skipComment_cons dangling] at read
    split at read
    · next closing =>
      obtain rfl := Except.ok.inj read
      obtain rfl := beq_iff_eq.1 closing
      exact ⟨[], rfl, by simp, by simp⟩
    · next other =>
      obtain ⟨inner, rfl, sound, bare⟩ := ih read
      have other : token ≠ .plain ')' := fun same => other (beq_iff_eq.2 same)
      exact ⟨token :: inner, rfl, List.not_mem_cons_of_ne_of_not_mem (Ne.symm dangling) sound,
        List.not_mem_cons_of_ne_of_not_mem other.symm bare⟩

/-- What is in front of the next closing parenthesis is skipped, whatever comes after it. -/
theorem skipComment_inner {inner : List Token} (sound : .dangling ∉ inner)
    (closed : .plain ')' ∉ inner) (start : Nat) (rest : List Token) (position : Nat) :
    ∃ place, skipComment start (inner ++ .plain ')' :: rest) position = .ok ⟨rest, place⟩ := by
  induction inner generalizing position with
  | nil => exact ⟨_, by rw [List.nil_append, skipComment_cons (by simp), if_pos (by simp)]⟩
  | cons token inner ih =>
    obtain ⟨whole, sound⟩ := List.ne_and_not_mem_of_not_mem_cons sound
    obtain ⟨other, closed⟩ := List.ne_and_not_mem_of_not_mem_cons closed
    obtain ⟨place, given⟩ := ih sound closed (position + token.width)
    refine ⟨place, ?_⟩
    rw [List.cons_append, skipComment_cons whole.symm, if_neg (by simpa using other.symm), given]

/-- A comment between parentheses is read alike in front of all tokens. -/
theorem readToken_comment {inner : List Token} (sound : .dangling ∉ inner)
    (closed : .plain ')' ∉ inner) (shown : reader.frame.verbose = false) (rest : List Token) :
    ∃ last, reader.readToken (.plain '(') position
      ⟨.plain '?' :: .plain '#' :: inner ++ .plain ')' :: rest, start⟩ =
        .ok (reader, ⟨rest, last⟩) := by
  obtain ⟨last, given⟩ := skipComment_inner sound closed position rest (start + 1 + 1)
  refine ⟨last, ?_⟩
  simp [readToken, readChar, shown, openGroup, Cursor.startsWith, openExtension, Cursor.next,
    Token.width, given, Except.map]

/-- A comment between parentheses. -/
theorem lexes_comment {tokens : List Token}
    (read : skipComment position tokens start = .ok after) :
    reader.Lexes position (.plain '(') (.plain '?' :: .plain '#' :: tokens) reader
      after.tokens := by
  obtain ⟨inner, rfl, sound, closed⟩ := exists_inner_of_skipComment read
  refine ⟨.comment, .plain '?' :: .plain '#' :: inner ++ [.plain ')'], by simp,
    .comment sound closed, rfl, fun _ rest _ other next start place shown acts => ?_⟩
  obtain rfl := Option.some.inj acts
  simpa using readToken_comment sound closed shown rest

/-! ## Groups -/

/-- The head of a group is read alike in front of all tokens. -/
theorem readToken_opening (head : Opening) (shown : reader.frame.verbose = false)
    (rest : List Token) : ∃ last, reader.readToken (.plain '(') position
      ⟨.plain '?' :: head.signs.map .plain ++ rest, start⟩ =
        .ok (head.inside reader position, ⟨rest, last⟩) := by
  refine ⟨start + (head.signs.length + 1), ?_⟩
  rcases head with _ | ⟨_ | _⟩ | ⟨_ | _⟩ | _ <;>
    simp [readToken, readChar, shown, openGroup, Cursor.startsWith, openExtension, openAngle,
      Cursor.next, Token.width, Opening.signs, Opening.inside]

/-- The head of a group. -/
theorem lexes_opening (head : Opening) :
    reader.Lexes position (.plain '(') (.plain '?' :: head.signs.map .plain ++ left)
      (head.inside reader position) left := by
  refine ⟨.opening head, _, rfl, .opening head, rfl,
    fun _ rest _ other next start place shown acts => ?_⟩
  obtain rfl := Option.some.inj acts
  exact readToken_opening head shown rest

/-- The head of a group, where this is what has been read. -/
theorem lexes_head (head : Opening) {last : Nat}
    (read : Except.ok (head.inside reader position, (⟨left, last⟩ : Cursor)) =
      (.ok (next, after) : Except Refusal (Reader × Cursor))) :
    reader.Lexes position (.plain '(') (.plain '?' :: head.signs.map .plain ++ left) next
      after.tokens := by
  obtain ⟨rfl, rfl⟩ := Prod.mk.inj (Except.ok.inj read)
  exact lexes_opening head

/-- The head of a look-behind. -/
theorem lexes_openAngle {tokens : List Token} {place : Nat}
    (read : reader.openAngle position ⟨tokens, place⟩ = .ok (next, after)) :
    reader.Lexes position (.plain '(') (.plain '?' :: .plain '<' :: tokens) next after.tokens := by
  unfold openAngle at read
  split at read
  · exact absurd read (Cursor.fail_ne_ok _ _ _ _)
  · next rest here =>
    obtain rfl : tokens = .plain '=' :: rest := here
    exact lexes_head (.behind false) read
  · next rest here =>
    obtain rfl : tokens = .plain '!' :: rest := here
    exact lexes_head (.behind true) read
  · exact absurd read (Cursor.fail_ne_ok _ _ _ _)
  · exact absurd read (Cursor.fail_ne_ok _ _ _ _)

/-- A parenthesis with a question mark and one of the signs that lexemes know. -/
theorem lexes_sign {c : Char} (known : c ∈ '#' :: groupSigns) {tokens : List Token} {place : Nat}
    (read : reader.openExtension position ⟨.plain c :: tokens, place⟩ = .ok (next, after)) :
    reader.Lexes position (.plain '(') (.plain '?' :: .plain c :: tokens) next after.tokens := by
  simp only [groupSigns, List.mem_cons, List.not_mem_nil, or_false] at known
  obtain rfl | rfl | rfl | rfl | rfl | rfl := known
  · replace read : (skipComment position tokens (place + 1)).map
        (fun after => (reader, after)) = .ok (next, after) := read
    cases skipped : skipComment position tokens (place + 1) with
    | error refusal =>
      rw [skipped] at read
      exact absurd read (by simp [Except.map])
    | ok ended =>
      rw [skipped] at read
      obtain ⟨rfl, rfl⟩ := Prod.mk.inj (Except.ok.inj read)
      exact lexes_comment skipped
  · exact lexes_head .plain read
  · exact lexes_head (.ahead false) read
  · exact lexes_head (.ahead true) read
  · exact lexes_openAngle read
  · exact lexes_head .atomic read

/-- A parenthesis and what belongs to it. -/
theorem lexes_openGroup
    (signed : Token.HasSign ('#' :: groupSigns) (.plain '(' :: cursor.tokens) = true)
    (read : reader.openGroup position cursor = .ok (next, after)) :
    reader.Lexes position (.plain '(') cursor.tokens next after.tokens := by
  obtain ⟨tokens, place⟩ := cursor
  unfold openGroup at read
  split at read
  · next mark =>
    obtain _ | ⟨token, tokens⟩ := tokens
    · exact absurd mark (by simp [Cursor.startsWith])
    obtain rfl : token = .plain '?' := by simpa [Cursor.startsWith] using mark
    obtain _ | ⟨sign, tokens⟩ := tokens
    · exact absurd read (Cursor.fail_ne_ok _ _ _ _)
    obtain ⟨c, known, rfl⟩ : ∃ c ∈ '#' :: groupSigns, sign = .plain c := by
      simpa [Token.HasSign] using signed
    exact lexes_sign known read
  · next bare =>
    obtain ⟨rfl, rfl⟩ := Prod.mk.inj (Except.ok.inj read)
    have bare : tokens.head? ≠ some (.plain '?') := by simpa [Cursor.startsWith] using bare
    refine ⟨.capture, [], rfl, .capture bare, rfl,
      fun _ rest alike other next start place shown acts => ⟨place, ?_⟩⟩
    obtain rfl := Option.some.inj acts
    have bare : (⟨rest, place⟩ : Cursor).startsWith '?' = false := by
      simpa [Cursor.startsWith, alike.head?] using bare
    simp [readToken, readChar, shown, openGroup, bare]

/-! ## Tokens -/

/-- A lexeme that is one token and stands in front of anything. -/
theorem Lexes.single {lexeme : Lexeme} (spells : lexeme.Spells left [token])
    (acts : lexeme.act position reader = some next)
    (reads : ∀ (other next : Reader) start one, other.frame.verbose = false →
      lexeme.act start other = some next → other.readToken token start one = .ok (next, one)) :
    reader.Lexes position token left next left :=
  ⟨lexeme, [], rfl, spells, acts, fun _ _ _ other next start place shown acts =>
    ⟨place, reads other next start _ shown acts⟩⟩

/-- A character outside of escapes. -/
theorem lexes_readChar {c : Char} (bar : c ≠ '|') (closing : c ≠ ')')
    (shown : reader.frame.verbose = false)
    (signed : Token.HasSign ('#' :: groupSigns) (.plain c :: cursor.tokens) = true)
    (read : reader.readChar c position cursor = .ok (next, after)) :
    reader.Lexes position (.plain c) cursor.tokens next after.tokens := by
  have token (other : Reader) start one :
      other.readToken (.plain c) start one = other.readChar c start one := by
    unfold readToken
    simp
  have literal {expr : Expr} (plain : expr.isPlain = true) (inert : (Token.plain c).IsInert)
      (reads : ∀ (other : Reader) start one, other.frame.verbose = false →
        other.readChar c start one = .ok (other.push expr, one)) :
      reader.Lexes position (.plain c) cursor.tokens (reader.push expr) cursor.tokens := by
    refine .part plain inert (.nothing (fun start one other shown => ?_) _)
    rw [token, reads other start one shown]
  have repeats {least : Nat} {most : Option Nat} (ordered : most.all (least ≤ ·) = true)
      (inert : (Token.plain c).IsInert)
      (reads : ∀ (other : Reader) start one, other.frame.verbose = false →
        other.readChar c start one = other.repeatLatest least most start one)
      (read : reader.repeatLatest least most position cursor = .ok (next, after)) :
      reader.Lexes position (.plain c) cursor.tokens next after.tokens :=
    lexes_repeatLatest ordered inert (fun other shown start one =>
      (token other start one).trans (reads other start one shown)) read
  -- The tests of the reader in their order; what they leave stands for itself.
  unfold readChar at read
  simp only [shown, Bool.false_and, Bool.false_eq_true, if_false, beq_iff_eq] at read
  split at read
  · next same =>
    subst same
    obtain ⟨⟨expr, last⟩, set, read⟩ := exists_of_bind read
    obtain ⟨rfl, rfl⟩ := Prod.mk.inj (Except.ok.inj read)
    exact lexes_readSet set
  split at read
  · next same =>
    subst same
    exact repeats rfl (by simp [Token.IsInert]) (by intros; simp [readChar, *]) read
  split at read
  · next same =>
    subst same
    exact repeats rfl (by simp [Token.IsInert]) (by intros; simp [readChar, *]) read
  split at read
  · next same =>
    subst same
    exact repeats rfl (by simp [Token.IsInert]) (by intros; simp [readChar, *]) read
  split at read
  · next same =>
    subst same
    exact lexes_readBraces read
  split at read
  · next same =>
    subst same
    obtain ⟨rfl, rfl⟩ := Prod.mk.inj (Except.ok.inj read)
    exact literal rfl (by simp [Token.IsInert]) (by intros; simp [readChar, *])
  split at read
  · next same =>
    subst same
    exact lexes_openGroup signed read
  split at read
  · next same =>
    subst same
    obtain ⟨rfl, rfl⟩ := Prod.mk.inj (Except.ok.inj read)
    exact literal rfl (by simp [Token.IsInert]) (by intros; simp [readChar, *])
  split at read
  · next same =>
    subst same
    obtain ⟨rfl, rfl⟩ := Prod.mk.inj (Except.ok.inj read)
    exact literal rfl (by simp [Token.IsInert]) (by intros; simp [readChar, *])
  · next set _ _ _ _ _ opening _ _ =>
    obtain ⟨rfl, rfl⟩ := Prod.mk.inj (Except.ok.inj read)
    refine literal rfl ?_ (by intros; simp [readChar, *])
    simp [Token.IsInert, *]

/-- A bar stands where it begins one more branch. -/
theorem readBar_eq_ok : reader.readBar position cursor = .ok (next, after) ↔
    Lexeme.bar.act position reader = some next ∧ cursor = after := by
  unfold readBar Lexeme.act
  cases reader.frame.kind <;> cases reader.frame.branches <;> simp

/-- A closing parenthesis stands where a group is open. -/
theorem readClosing_eq_ok (place : Nat) :
    reader.readClosing position cursor = .ok (next, after) ↔
      Lexeme.closing.act place reader = some next ∧ cursor = after := by
  unfold readClosing Lexeme.act
  cases reader.outer with
  | nil => cases reader.checkAlphabets <;> simp [bind, Except.bind]
  | cons outermost outer => simp

/-- A token is read as one lexeme with those that are read along. -/
theorem lexes_readToken (shown : reader.frame.verbose = false)
    (signed : Token.HasSign ('#' :: groupSigns) (token :: cursor.tokens) = true)
    (read : reader.readToken token position cursor = .ok (next, after)) :
    reader.Lexes position token cursor.tokens next after.tokens := by
  unfold readToken at read
  split at read
  · exact lexes_readEscape read
  · exact absurd read (by simp)
  · obtain ⟨acts, rfl⟩ := readBar_eq_ok.1 read
    exact .single .bar acts fun other next start one _ acts => readBar_eq_ok.2 ⟨acts, rfl⟩
  · obtain ⟨acts, rfl⟩ := (readClosing_eq_ok position).1 read
    exact .single .closing acts fun other next start one _ acts =>
      (readClosing_eq_ok _).2 ⟨acts, rfl⟩
  · next c bar closing => exact lexes_readChar bar closing shown signed read

end Reader

end RoutePattern.Regex
