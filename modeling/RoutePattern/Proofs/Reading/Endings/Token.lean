import RoutePattern.Proofs.Numeral
import RoutePattern.Proofs.Reading.Endings.Group

/-!
# Groups and tokens in front of two endings

The head of a group is read alike in front of both endings, or one of the two sources is refused. A
comment alone may go on into the ending and be sound: one in parentheses, which then swallows the
ending up to a parenthesis of its own, and one in a verbose group, which swallows all of it
(`agrees_readToken`).
-/
namespace RoutePattern.Regex

namespace Reader

variable {one two : Text} {first second : Cursor} (ending : IsEnding one) (ending' : IsEnding two)
  (beside : Beside one two first second) (reader : Reader)

/-- A name with a question mark is no identifier. -/
theorem isIdentifier_eq_false {name : Text} (mark : '?' ∈ name) :
    Unicode.isIdentifier name = false := by
  have starts : Unicode.startsIdentifier '?'.toNat = false := by decide +kernel
  have continues : Unicode.continuesIdentifier '?'.toNat = false := by decide +kernel
  cases name with
  | nil => rfl
  | cons c name =>
    rw [Unicode.isIdentifier, Bool.and_eq_false_iff, List.all_eq_false]
    rcases List.mem_cons.1 mark with rfl | later
    · exact .inl starts
    · exact .inr ⟨'?', later, by rw [continues]; exact Bool.false_ne_true⟩

include ending beside in
/-- A group with a name. -/
theorem agrees_openNamed (start : Nat) :
    Agrees (Same one two) (reader.openNamed start first) (reader.openNamed start second) := by
  unfold openNamed
  refine (beside.readName_closed _ _ ending (by decide)).bind fun value other same => ?_
  obtain ⟨name, after⟩ := value
  obtain ⟨name', after'⟩ := other
  obtain ⟨rfl, later⟩ := same
  simp only
  split
  · exact .fail ..
  · split
    · exact .fail ..
    · exact .ok ⟨rfl, later⟩

include ending beside in
/-- A reference by name. -/
theorem agrees_readNamedReference :
    Agrees (Same one two) (reader.readNamedReference first)
      (reader.readNamedReference second) := by
  unfold readNamedReference
  refine (beside.readName_marked _ _ ending).bind fun value other read => ?_
  obtain ⟨name, after⟩ := value
  obtain ⟨name', after'⟩ := other
  rcases read with ⟨rfl, later⟩ | mark
  · simp only
    split
    · exact .fail ..
    · split
      · exact .fail ..
      · split
        · exact .fail ..
        · exact (agrees_checkBehind ..).bind fun _ _ _ => .ok ⟨rfl, later⟩
  · simp only [isIdentifier_eq_false mark, Bool.not_false, if_true]
    exact .fail ..

/-- A condition on a group. -/
theorem agrees_conditionGroup (name : Text) (position : Nat) (first second : Cursor) :
    Agrees Eq (reader.conditionGroup name position first)
      (reader.conditionGroup name position second) := by
  unfold conditionGroup
  split
  · split
    · exact .fail ..
    · exact .ok rfl
  · split
    · split
      · exact .fail ..
      · split
        · exact .fail ..
        · split
          · exact .ok rfl
          · exact .ok rfl
    · exact .fail ..

/-- No condition is on a group whose name has a question mark. -/
theorem conditionGroup_ne_ok {name : Text} (mark : '?' ∈ name) (position : Nat) (after : Cursor)
    (value : Nat × Reader) : reader.conditionGroup name position after ≠ .ok value := by
  unfold conditionGroup
  rw [isIdentifier_eq_false mark, if_neg Bool.false_ne_true]
  split
  · next index read => exact absurd read (Decimal.readInt_ne_ok mark _)
  · exact Cursor.fail_ne_ok _ _ _ _

include ending beside in
/-- A group under a condition. -/
theorem agrees_openConditional (start : Nat) :
    Agrees (Same one two) (reader.openConditional start first)
      (reader.openConditional start second) := by
  unfold openConditional
  refine (beside.readName_marked _ _ ending).bind fun value other read => ?_
  obtain ⟨name, after⟩ := value
  obtain ⟨name', after'⟩ := other
  rw [beside.position_eq]
  rcases read with ⟨rfl, later⟩ | mark
  · refine (agrees_conditionGroup ..).bind fun result result' same => ?_
    subst same
    exact (agrees_checkBehind ..).bind fun _ _ _ => .ok ⟨rfl, later⟩
  · refine .refused fun value read => ?_
    obtain ⟨result, found, -⟩ := exists_of_bind read
    exact reader.conditionGroup_ne_ok mark _ _ _ found

/-- No condition is read out of an ending. -/
theorem openConditional_ending (ending : IsEnding one) {tokens : List Token}
    (cut : endingTokens one = .plain '(' :: tokens) (reader : Reader) (start position : Nat)
    (value : Reader × Cursor) : reader.openConditional start ⟨tokens, position⟩ ≠ .ok value := by
  obtain ⟨c, text, rfl, same, rfl⟩ := List.map_eq_cons_iff.1 cut
  obtain rfl := Token.plain.inj same
  intro read
  unfold openConditional at read
  obtain ⟨⟨name, after⟩, named, later⟩ := exists_of_bind read
  obtain ⟨closes, held⟩ := Cursor.mem_of_readName named
  have mark : '?' ∈ name := by
    have inside := ending.marked (List.mem_cons_of_mem _ closes)
    rw [List.takeWhile_cons_of_pos (by decide)] at inside
    rw [held]
    exact (List.mem_cons.1 inside).resolve_left (by decide)
  obtain ⟨result, found, -⟩ := exists_of_bind later
  exact reader.conditionGroup_ne_ok mark _ _ _ found

include ending beside in
/-- Flags of a group or of the whole expression. -/
theorem agrees_openFlags (flag : Option FlagName) (start : Nat) :
    Agrees (Same one two) (reader.openFlags flag start first)
      (reader.openFlags flag start second) := by
  unfold openFlags
  refine (agrees_readFlags ending beside flag).bind fun value other same => ?_
  obtain ⟨flags, after⟩ := value
  obtain ⟨flags', after'⟩ := other
  obtain ⟨rfl, later⟩ := same
  simp only
  split
  · exact .ok ⟨rfl, later⟩
  · split
    · exact .fail ..
    · exact .ok ⟨rfl, later⟩

include ending beside in
/-- A look-behind. -/
theorem agrees_openAngle (start : Nat) :
    Agrees (Same one two) (reader.openAngle start first) (reader.openAngle start second) := by
  obtain ⟨left, position, rfl, rfl⟩ := beside
  unfold openAngle
  cases left with
  | nil =>
    simp only [List.nil_append]
    rcases ending.cases with none | ⟨c, tokens, cut, first⟩
    · rw [none]
      exact .fail ..
    · rw [cut]
      rcases first with rfl | rfl | rfl <;> exact .fail ..
  | cons token left =>
    simp only [List.cons_append]
    split
    · exact .fail ..
    · next cut =>
      obtain ⟨rfl, -⟩ := List.cons.inj cut
      exact .ok ⟨rfl, left, _, rfl, rfl⟩
    · next cut =>
      obtain ⟨rfl, -⟩ := List.cons.inj cut
      exact .ok ⟨rfl, left, _, rfl, rfl⟩
    · exact .fail ..
    · exact .fail ..

include ending beside in
/-- A name after a letter. -/
theorem agrees_openLettered (start : Nat) :
    Agrees (Same one two) (reader.openLettered start first)
      (reader.openLettered start second) := by
  obtain ⟨left, position, rfl, rfl⟩ := beside
  unfold openLettered
  cases left with
  | nil =>
    simp only [List.nil_append]
    rcases ending.cases with none | ⟨c, tokens, cut, first⟩
    · rw [none]
      exact .fail ..
    · rw [cut]
      rcases first with rfl | rfl | rfl <;> exact .fail ..
  | cons token left =>
    simp only [List.cons_append]
    split
    · exact .fail ..
    · next cut =>
      obtain ⟨rfl, -⟩ := List.cons.inj cut
      exact agrees_openNamed ending ⟨left, _, rfl, rfl⟩ reader start
    · next cut =>
      obtain ⟨rfl, -⟩ := List.cons.inj cut
      exact agrees_readNamedReference ending ⟨left, _, rfl, rfl⟩ reader
    · exact .fail ..
    · exact .fail ..

/-! ## Comments -/

/-- What a comment that goes on into an ending leaves of it. -/
def afterComment (ending : Text) : Text := (ending.dropWhile (· != ')')).tail

/-- What a token makes of a reader in front of both endings. -/
inductive Parallel (one two : Text) (reader : Reader) (value other : Reader × Cursor) : Prop
  /-- The same reader, in front of both endings. -/
  | same (same : Same one two value other)
  /-- A comment in a verbose group swallows the endings. -/
  | line (verbose : reader.frame.verbose = true) (kept : value.1 = reader)
    (left : value.2.tokens = [])
  /-- A comment in parentheses swallows the endings up to a parenthesis of theirs. -/
  | comment (closes : ')' ∈ one) (kept : value.1 = reader) (kept' : other.1 = reader)
    (left : value.2.tokens = endingTokens (afterComment one))
    (left' : other.2.tokens = endingTokens (afterComment two))

/-- Where neither source is refused, the token makes the same of the reader. -/
theorem parallel_of_same {reader : Reader} {result result' : Except Refusal (Reader × Cursor)}
    (agrees : Agrees (Same one two) result result') :
    Agrees (Parallel one two reader) result result' :=
  ⟨fun value other read read' => .same (agrees.related_of_ok value other read read')⟩

/-- A comment that begins in an ending ends at the first parenthesis of the ending. -/
theorem skipComment_ending {text : Text} {start position : Nat} {after : Cursor}
    (read : skipComment start (endingTokens text) position = .ok after) :
    ')' ∈ text ∧ after.tokens = endingTokens (afterComment text) := by
  induction text generalizing position with
  | nil => exact absurd read (Cursor.fail_ne_ok _ _ _ _)
  | cons c text ih =>
    rw [endingTokens, List.map_cons, skipComment] at read
    · by_cases closing : c = ')'
      · subst closing
        obtain rfl := Except.ok.inj read
        exact ⟨List.mem_cons_self .., rfl⟩
      · rw [if_neg (by simpa using closing)] at read
        obtain ⟨member, left⟩ := ih read
        refine ⟨List.mem_cons_of_mem _ member, ?_⟩
        rw [left, afterComment, afterComment, List.dropWhile_cons_of_pos (by simpa using closing)]
    · exact Token.plain_ne_dangling c

/-- A comment in parentheses ends at the same parenthesis, or in both endings. -/
theorem agrees_skipComment (start : Nat) {left : List Token} (position : Nat) :
    Agrees (fun after after' : Cursor => Beside one two after after' ∨ ')' ∈ one ∧
        after.tokens = endingTokens (afterComment one) ∧
        after'.tokens = endingTokens (afterComment two))
      (skipComment start (left ++ endingTokens one) position)
      (skipComment start (left ++ endingTokens two) position) := by
  induction left generalizing position with
  | nil =>
    refine ⟨fun after after' read read' => .inr ?_⟩
    obtain ⟨closes, rest⟩ := skipComment_ending read
    exact ⟨closes, rest, (skipComment_ending read').2⟩
  | cons token left ih =>
    rw [List.cons_append, List.cons_append]
    by_cases dangling : token = .dangling
    · subst dangling
      exact .fail ..
    · rw [skipComment, skipComment]
      · split
        · exact .ok (.inl ⟨left, _, rfl, rfl⟩)
        · exact ih _
      · exact dangling
      · exact dangling

/-- A flag after the question mark. -/
theorem openExtension_flag {token : Token} {flag : FlagName} (flagged : flagOf? token = some flag)
    {reader : Reader} {start position : Nat} {tokens : List Token} :
    reader.openExtension start ⟨token :: tokens, position⟩ =
      reader.openFlags (some flag) start ⟨tokens, position + token.width⟩ := by
  unfold flagOf? at flagged
  split at flagged
  · unfold FlagName.ofChar? at flagged
    split at flagged
    all_goals first
      | contradiction
      | obtain rfl := Option.some.inj flagged
        rfl
  · exact absurd flagged (by simp)

include ending beside in
/-- A parenthesis with a question mark. -/
theorem agrees_openExtension (start : Nat) :
    Agrees (Parallel one two reader) (reader.openExtension start first)
      (reader.openExtension start second) := by
  obtain ⟨left, position, rfl, rfl⟩ := beside
  -- Without a token in between the parenthesis faces the ending itself.
  cases left with
  | nil =>
    unfold openExtension
    simp only [List.nil_append]
    rcases ending.cases with none | ⟨c, tokens, cut, first⟩
    · rw [none]
      exact .fail ..
    · rw [cut]
      rcases first with rfl | rfl | rfl
      · exact .fail ..
      · exact .fail ..
      · refine .refused fun value read => openConditional_ending ending cut reader start _ value read
  | cons token left =>
    have later (place : Nat) : Beside one two ⟨left ++ endingTokens one, place⟩
        ⟨left ++ endingTokens two, place⟩ := ⟨left, place, rfl, rfl⟩
    rw [List.cons_append, List.cons_append]
    -- Flags are told from the other signs first, since the reader's last test is for them.
    cases flagged : flagOf? token with
    | some flag =>
      rw [openExtension_flag flagged, openExtension_flag flagged]
      exact parallel_of_same (agrees_openFlags ending (later _) ..)
    | none =>
    unfold openExtension
    simp only
    split
    · exact .fail ..
    · next cut =>
      obtain ⟨rfl, -⟩ := List.cons.inj cut
      exact parallel_of_same (agrees_openLettered ending (later _) ..)
    · next cut =>
      obtain ⟨rfl, -⟩ := List.cons.inj cut
      exact .ok (.same ⟨rfl, later _⟩)
    · next cut =>
      obtain ⟨rfl, rfl⟩ := List.cons.inj cut
      refine (agrees_skipComment start _).map fun after after' read => ?_
      rcases read with beside | ⟨closes, rest, rest'⟩
      · exact .same ⟨rfl, beside⟩
      · exact .comment closes rfl rfl rest rest'
    · next cut =>
      obtain ⟨rfl, -⟩ := List.cons.inj cut
      exact .ok (.same ⟨rfl, later _⟩)
    · next cut =>
      obtain ⟨rfl, -⟩ := List.cons.inj cut
      exact .ok (.same ⟨rfl, later _⟩)
    · next cut =>
      obtain ⟨rfl, -⟩ := List.cons.inj cut
      exact parallel_of_same (agrees_openAngle ending (later _) ..)
    · next cut =>
      obtain ⟨rfl, -⟩ := List.cons.inj cut
      exact parallel_of_same (agrees_openConditional ending (later _) ..)
    · next cut =>
      obtain ⟨rfl, -⟩ := List.cons.inj cut
      exact .ok (.same ⟨rfl, later _⟩)
    · next cut =>
      obtain ⟨rfl, -⟩ := List.cons.inj cut
      exact parallel_of_same (agrees_openFlags ending (later _) ..)
    · exact .fail ..
    · next cut =>
      obtain ⟨rfl, -⟩ := List.cons.inj cut
      rw [flagged]
      exact .fail ..

include ending ending' beside in
/-- A parenthesis. -/
theorem agrees_openGroup (start : Nat) :
    Agrees (Parallel one two reader) (reader.openGroup start first)
      (reader.openGroup start second) := by
  obtain ⟨marked, next⟩ := beside.startsWith ending ending' (show '?' ∉ ['$', '/', '('] by decide)
  unfold openGroup
  rw [marked]
  split
  · next here => exact agrees_openExtension ending (next here) ..
  · exact .ok (.same ⟨rfl, beside⟩)

/-! ## Tokens -/

/-- A comment that begins in an ending without line ends swallows all of it. -/
theorem skipLine_ending {text : Text} (unbroken : ∀ c ∈ text, c ≠ '\n') (position : Nat) :
    (skipLine (endingTokens text) position).tokens = [] := by
  induction text generalizing position with
  | nil => rfl
  | cons c text ih =>
    obtain ⟨other, others⟩ := List.forall_mem_cons.1 unbroken
    rw [endingTokens, List.map_cons, skipLine]
    · rw [if_neg (by simpa using other)]
      exact ih others _
    · exact Token.plain_ne_dangling c

include ending in
/-- A comment in a verbose group ends with its line, or it swallows the ending. -/
theorem agrees_skipLine (left : List Token) (position : Nat) :
    Beside one two (skipLine (left ++ endingTokens one) position)
        (skipLine (left ++ endingTokens two) position) ∨
      (skipLine (left ++ endingTokens one) position).tokens = [] := by
  induction left generalizing position with
  | nil =>
    refine .inr (skipLine_ending (fun c found same => ?_) position)
    exact ending.closed c found (by simp [same])
  | cons token left ih =>
    rw [List.cons_append, List.cons_append]
    by_cases dangling : token = .dangling
    · subst dangling
      exact .inl ⟨.dangling :: left, position, rfl, rfl⟩
    · rw [skipLine, skipLine]
      · split
        · exact .inl ⟨left, _, rfl, rfl⟩
        · exact ih _
      · exact dangling
      · exact dangling

include ending ending' beside in
/-- A character outside of sets and escapes. -/
theorem agrees_readChar (c : Char) (position : Nat) :
    Agrees (Parallel one two reader) (reader.readChar c position first)
      (reader.readChar c position second) := by
  unfold readChar
  refine .ite (fun _ => .ok (.same ⟨rfl, beside⟩)) fun _ => ?_
  refine .ite (fun verbose => ?_) fun _ => ?_
  · obtain ⟨left, place, rfl, rfl⟩ := beside
    rcases agrees_skipLine ending left place with later | swallowed
    · exact .ok (.same ⟨rfl, later⟩)
    · exact .ok (.line (Bool.and_eq_true_iff.1 verbose).1 rfl swallowed)
  refine .ite (fun _ => parallel_of_same ((agrees_readSet ending ending' beside position).bind
    fun value other same => .ok ⟨congrArg reader.push same.1, same.2⟩)) fun _ => ?_
  have repeated (least : Nat) (most : Option Nat) : Agrees (Parallel one two reader)
      (reader.repeatLatest least most position first)
      (reader.repeatLatest least most position second) :=
    parallel_of_same (agrees_repeatLatest ending ending' beside ..)
  refine .ite (fun _ => repeated 0 (some 1)) fun _ => ?_
  refine .ite (fun _ => repeated 0 none) fun _ => ?_
  refine .ite (fun _ => repeated 1 none) fun _ => ?_
  refine .ite (fun _ => parallel_of_same (agrees_readBraces ending ending' beside ..)) fun _ => ?_
  refine .ite (fun _ => .ok (.same ⟨rfl, beside⟩)) fun _ => ?_
  refine .ite (fun _ => agrees_openGroup ending ending' beside ..) fun _ => ?_
  refine .ite (fun _ => .ok (.same ⟨rfl, beside⟩)) fun _ => ?_
  exact .ite (fun _ => .ok (.same ⟨rfl, beside⟩)) fun _ => .ok (.same ⟨rfl, beside⟩)

include ending ending' beside in
/-- A token is read alike in front of both endings, unless a comment swallows them. -/
theorem agrees_readToken (token : Token) (position : Nat) :
    Agrees (Parallel one two reader) (reader.readToken token position first)
      (reader.readToken token position second) := by
  unfold readToken
  split
  · exact parallel_of_same (agrees_readEscape ending ending' beside ..)
  · exact .refused (by simp)
  · unfold readBar
    split
    · exact .refused (by simp)
    · exact .ok (.same ⟨rfl, beside⟩)
  · unfold readClosing
    split
    · refine .refused fun value read => ?_
      obtain ⟨sound, -, stray⟩ := exists_of_bind read
      exact absurd stray (by simp)
    · exact .ok (.same ⟨rfl, beside⟩)
  · exact agrees_readChar ending ending' beside ..

end Reader

end RoutePattern.Regex
