import RoutePattern.Proofs.Reading.Source

/-!
# One text in front of two endings

A source may be continued in two ways. Two cursors stand beside each other if they have the same
tokens in front of the two endings (`Beside`). An ending holds no sign that closes what the text
before it has left open, and starts with none that joins what stands before it (`IsEnding`). So
names, digits and escapes are read alike in front of both endings, or else refused.
-/
namespace RoutePattern.Regex

/-- A text that can neither close nor go on with what stands before it, but for a parenthesis that
comes after a question mark. -/
structure IsEnding (text : Text) : Prop where
  bare : '\\' ∉ text
  first : ∀ c ∈ text.head?, c ∈ ['$', '/', '(']
  closed : ∀ c ∈ text, c ∉ [']', '>', '\x7d', '\n']
  marked : ')' ∈ text → '?' ∈ text.takeWhile (· != ')')

instance (text : Text) : Decidable (IsEnding text) :=
  decidable_of_iff (('\\' ∉ text ∧ (text.take 1).all (fun c => c ∈ ['$', '/', '('])) ∧
      text.all (fun c => c ∉ [']', '>', '\x7d', '\n']) ∧
        (')' ∈ text → '?' ∈ text.takeWhile (· != ')')))
    ⟨fun ⟨⟨bare, first⟩, closed, marked⟩ => ⟨bare, fun c found =>
        Text.forall_mem_iff_all.2 first c (by cases text <;> simp_all),
        Text.forall_mem_iff_all.2 closed, marked⟩,
      fun ⟨bare, first, closed, marked⟩ => ⟨⟨bare, Text.forall_mem_iff_all.1 fun c found =>
        first c (by cases text <;> simp_all)⟩, Text.forall_mem_iff_all.1 closed, marked⟩⟩

/-- The tokens of an ending. -/
def endingTokens (text : Text) : List Token := text.map .plain

/-- An ending is empty or starts with a dollar sign, a slash or a parenthesis. -/
theorem IsEnding.cases {text : Text} (ending : IsEnding text) : endingTokens text = [] ∨
    ∃ c tokens, endingTokens text = .plain c :: tokens ∧ (c = '$' ∨ c = '/' ∨ c = '(') := by
  cases text with
  | nil => exact .inl rfl
  | cons c text =>
    have first := ending.first c rfl
    simp only [List.mem_cons, List.not_mem_nil, or_false] at first
    exact .inr ⟨c, endingTokens text, rfl, first⟩

/-- Two cursors have the same tokens in front of the two endings. -/
def Beside (one two : Text) (first second : Cursor) : Prop :=
  ∃ left position, first = ⟨left ++ endingTokens one, position⟩ ∧
    second = ⟨left ++ endingTokens two, position⟩

/-- Two results agree if, whenever neither is refused, their values are related. -/
structure Agrees {α β : Type} (related : α → β → Prop) (first : Except Refusal α)
    (second : Except Refusal β) : Prop where
  related_of_ok : ∀ value other, first = .ok value → second = .ok other → related value other

/-- The same value, and cursors that stand beside each other. -/
def Same {α : Type} (one two : Text) (first second : α × Cursor) : Prop :=
  first.1 = second.1 ∧ Beside one two first.2 second.2

/-! ## Results -/

namespace Agrees

variable {α β γ δ : Type} {related : α → β → Prop} {other : γ → δ → Prop}
  {first : Except Refusal α} {second : Except Refusal β}

/-- Two values that are related. -/
theorem ok {value : α} {value' : β} (holds : related value value') :
    Agrees related (.ok value) (.ok value') := by
  refine ⟨fun _ _ same same' => ?_⟩
  obtain rfl := Except.ok.inj same
  obtain rfl := Except.ok.inj same'
  exact holds

/-- What is refused in front of the first ending. -/
theorem refused (refused : ∀ value, first ≠ .ok value) : Agrees related first second :=
  ⟨fun value _ same => absurd same (refused value)⟩

end Agrees

/-- A refusal is no value. -/
theorem Cursor.refuse_ne_ok {α : Type} (cursor : Cursor) (refusal : Refusal) (value : α) :
    cursor.refuse refusal ≠ .ok value := by
  unfold Cursor.refuse
  split
  · simp
  · simp

/-- A fault is no value. -/
theorem Cursor.fail_ne_ok {α : Type} (cursor : Cursor) (fault : Fault) (position : Nat)
    (value : α) : cursor.fail fault position ≠ .ok value :=
  cursor.refuse_ne_ok _ value

namespace Agrees

variable {α β γ δ : Type} {related : α → β → Prop} {other : γ → δ → Prop}
  {first : Except Refusal α} {second : Except Refusal β}

/-- A fault agrees with everything. -/
theorem fail (cursor : Cursor) (fault : Fault) (position : Nat) :
    Agrees related (cursor.fail fault position) second :=
  .refused (cursor.fail_ne_ok fault position)

/-- A refusal agrees with everything. -/
theorem refuse (cursor : Cursor) (refusal : Refusal) :
    Agrees related (cursor.refuse refusal) second :=
  .refused (cursor.refuse_ne_ok refusal)

/-- Results that hang on one condition. -/
theorem ite {condition : Prop} [Decidable condition] {first' : Except Refusal α}
    {second' : Except Refusal β} (yes : condition → Agrees related first second)
    (no : ¬condition → Agrees related first' second') :
    Agrees related (if condition then first else first')
      (if condition then second else second') := by
  by_cases holds : condition
  · rw [if_pos holds, if_pos holds]
    exact yes holds
  · rw [if_neg holds, if_neg holds]
    exact no holds

/-- Related values lead to results that agree. -/
theorem bind (agrees : Agrees related first second) {next : α → Except Refusal γ}
    {next' : β → Except Refusal δ}
    (later : ∀ value value', related value value' → Agrees other (next value) (next' value')) :
    Agrees other (first >>= next) (second >>= next') := by
  refine ⟨fun result result' same same' => ?_⟩
  obtain ⟨value, found, last⟩ := exists_of_bind same
  obtain ⟨value', found', last'⟩ := exists_of_bind same'
  have holds := agrees.related_of_ok value value' found found'
  exact (later value value' holds).related_of_ok result result' last last'

/-- Related values stay related. -/
theorem map (agrees : Agrees related first second) {change : α → γ} {change' : β → δ}
    (kept : ∀ value value', related value value' → other (change value) (change' value')) :
    Agrees other (first.map change) (second.map change') :=
  agrees.bind fun value value' holds => Agrees.ok (kept value value' holds)

end Agrees

/-! ## Cursors -/

namespace Beside

variable {one two : Text} {first second : Cursor}

/-- Cursors that stand beside each other are at one position. -/
theorem position_eq (beside : Beside one two first second) : first.position = second.position := by
  obtain ⟨left, position, rfl, rfl⟩ := beside
  rfl

/-- As many tokens are left before both endings. -/
theorem length_sub (beside : Beside one two first second) (left : List Token) :
    (left ++ endingTokens one).length - first.tokens.length ≤ left.length ∧
      (left ++ endingTokens one).length - first.tokens.length =
        (left ++ endingTokens two).length - second.tokens.length := by
  obtain ⟨others, position, rfl, rfl⟩ := beside
  simp only [List.length_append]
  omega

/-- No ending starts with another sign than its own. -/
theorem head?_ne {text : Text} (ending : IsEnding text) {sign : Char}
    (other : sign ∉ ['$', '/', '(']) : ((endingTokens text).head? == some (.plain sign)) = false := by
  rw [beq_eq_false_iff_ne, endingTokens, List.head?_map]
  intro same
  obtain ⟨c, found, equal⟩ := Option.map_eq_some_iff.1 same
  obtain rfl := Token.plain.inj equal
  exact other (ending.first _ found)

/-- Both cursors stand in front of a sign that starts no ending, or none does. -/
theorem startsWith (beside : Beside one two first second) (ending : IsEnding one)
    (ending' : IsEnding two) {sign : Char} (other : sign ∉ ['$', '/', '(']) :
    first.startsWith sign = second.startsWith sign ∧
      (second.startsWith sign = true → Beside one two first.next second.next) := by
  obtain ⟨left, position, rfl, rfl⟩ := beside
  cases left with
  | nil =>
    have none := head?_ne ending other
    have none' := head?_ne ending' other
    refine ⟨none.trans none'.symm, fun here => ?_⟩
    exact absurd (none'.symm.trans here) Bool.false_ne_true
  | cons token left => exact ⟨rfl, fun _ => ⟨left, position + token.width, rfl, rfl⟩⟩

end Beside

/-- A class that no ending starts with. -/
def IsInner (accepts : Char → Bool) : Prop := ∀ c ∈ ['$', '/', '('], accepts c = false

/-- Characters of a class are taken alike in front of both endings. -/
theorem Beside.takeWhile {one two : Text} {first second : Cursor}
    (beside : Beside one two first second) (ending : IsEnding one) (ending' : IsEnding two)
    {accepts : Char → Bool} (inner : IsInner accepts) (limit : Nat) :
    ∃ taken after after', first.takeWhile accepts limit = (taken, after) ∧
      second.takeWhile accepts limit = (taken, after') ∧ Beside one two after after' := by
  obtain ⟨left, position, rfl, rfl⟩ := beside
  -- No ending starts with a character of the class, so the run stops in front of it.
  have stops {text : Text} (ending : IsEnding text) (limit position : Nat) :
      Cursor.takeWhile accepts limit ⟨endingTokens text, position⟩ =
        ([], ⟨endingTokens text, position⟩) := by
    cases limit with
    | zero => rfl
    | succ limit =>
      cases text with
      | nil => rfl
      | cons c text =>
        have refused : accepts c = false := inner c (ending.first c rfl)
        simp [Cursor.takeWhile, endingTokens, refused]
  induction limit generalizing left position with
  | zero => exact ⟨[], _, _, rfl, rfl, left, position, rfl, rfl⟩
  | succ limit ih =>
    cases left with
    | nil => exact ⟨[], _, _, stops ending .., stops ending' .., [], position, rfl, rfl⟩
    | cons token left =>
      have here : Beside one two ⟨token :: left ++ endingTokens one, position⟩
          ⟨token :: left ++ endingTokens two, position⟩ := ⟨token :: left, position, rfl, rfl⟩
      cases token with
      | escaped c => exact ⟨[], _, _, rfl, rfl, here⟩
      | dangling => exact ⟨[], _, _, rfl, rfl, here⟩
      | plain c =>
        by_cases accepted : accepts c = true
        · obtain ⟨taken, after, after', found, found', later⟩ := ih left (position + 1)
          refine ⟨c :: taken, after, after', ?_, ?_, later⟩
          · simp only [Cursor.takeWhile, List.cons_append, accepted, if_true, found]
          · simp only [Cursor.takeWhile, List.cons_append, accepted, if_true, found']
        · refine ⟨[], _, _, ?_, ?_, here⟩
          · simp only [Cursor.takeWhile, List.cons_append, accepted, if_false, Bool.false_eq_true]
          · simp only [Cursor.takeWhile, List.cons_append, accepted, if_false, Bool.false_eq_true]

/-- No more characters are taken than there are tokens. -/
theorem Cursor.takeWhile_of_le {accepts : Char → Bool} {limit more : Nat} {cursor : Cursor}
    (enough : cursor.tokens.length ≤ limit) (enough' : cursor.tokens.length ≤ more) :
    cursor.takeWhile accepts limit = cursor.takeWhile accepts more := by
  induction limit generalizing more cursor with
  | zero =>
    have none : cursor.tokens = [] := List.length_eq_zero_iff.1 (Nat.le_zero.1 enough)
    cases more with
    | zero => rfl
    | succ more => rw [takeWhile, takeWhile, none]
  | succ limit ih =>
    cases more with
    | zero =>
      have none : cursor.tokens = [] := List.length_eq_zero_iff.1 (Nat.le_zero.1 enough')
      rw [takeWhile, takeWhile, none]
    | succ more =>
      rw [takeWhile, takeWhile]
      split
      · next c tokens cut =>
        rw [cut] at enough enough'
        rw [@ih more ⟨tokens, cursor.position + 1⟩ (Nat.le_of_succ_le_succ enough)
          (Nat.le_of_succ_le_succ enough')]
      · rfl

/-- What is left after some characters is no longer than what was there. -/
theorem Cursor.length_takeWhile_le (accepts : Char → Bool) (limit : Nat) (cursor : Cursor) :
    (cursor.takeWhile accepts limit).2.tokens.length ≤ cursor.tokens.length := by
  induction limit generalizing cursor with
  | zero => exact Nat.le_refl _
  | succ limit ih =>
    rw [takeWhile]
    split
    · next c tokens cut =>
      split
      · rw [cut]
        exact Nat.le_succ_of_le (ih ⟨tokens, cursor.position + 1⟩)
      · exact Nat.le_refl _
    · exact Nat.le_refl _

/-- What is left after one more token is no longer than what was there. -/
theorem Cursor.length_next_le (cursor : Cursor) :
    cursor.next.tokens.length ≤ cursor.tokens.length := by
  unfold next
  split
  · exact Nat.le_refl _
  · next cut =>
    rw [cut]
    exact Nat.le_succ _

/-- All characters of a class are taken alike in front of both endings. -/
theorem Beside.takeWhile_all {one two : Text} {first second : Cursor}
    (beside : Beside one two first second) (ending : IsEnding one) (ending' : IsEnding two)
    {accepts : Char → Bool} (inner : IsInner accepts) {limit more : Nat}
    (enough : first.tokens.length ≤ limit) (enough' : second.tokens.length ≤ more) :
    ∃ taken after after', first.takeWhile accepts limit = (taken, after) ∧
      second.takeWhile accepts more = (taken, after') ∧ Beside one two after after' ∧
      after.tokens.length ≤ limit ∧ after'.tokens.length ≤ more := by
  obtain ⟨taken, after, after', found, found', later⟩ :=
    beside.takeWhile ending ending' inner (max limit more)
  have less := first.length_takeWhile_le accepts (max limit more)
  have less' := second.length_takeWhile_le accepts (max limit more)
  rw [found] at less
  rw [found'] at less'
  rw [Cursor.takeWhile_of_le (enough.trans (Nat.le_max_left ..)) enough] at found
  rw [Cursor.takeWhile_of_le (enough'.trans (Nat.le_max_right ..)) enough'] at found'
  exact ⟨taken, after, after', found, found', later, less.trans enough, less'.trans enough'⟩

/-! ## Names -/

namespace Cursor

variable {terminator : Char} {what : String} {taken name : Text} {token : Token}
  {tokens : List Token} {position : Nat} {after : Cursor}

/-- A name does not end with the tokens. -/
theorem readName_nil_ne_ok (value : Text × Cursor) :
    readName terminator what taken [] position ≠ .ok value := by
  rw [readName]
  split <;> exact fail_ne_ok _ _ _ _

/-- A token ends a name that is not empty, or belongs to the name. -/
theorem readName_cons_eq_ok (sound : token ≠ .dangling) :
    readName terminator what taken (token :: tokens) position = .ok (name, after) ↔
      token = .plain terminator ∧ taken ≠ [] ∧ name = taken ∧
          after = ⟨tokens, position + token.width⟩ ∨
        token ≠ .plain terminator ∧
          readName terminator what (taken ++ token.text) tokens (position + token.width) =
            .ok (name, after) := by
  rw [readName]
  · by_cases closing : token = .plain terminator
    · subst closing
      cases taken with
      | nil => simp [fail_ne_ok]
      | cons c taken => simp [eq_comm]
    · simp [closing]
  · exact sound

/-- A name that is read out of an ending is what stands in front of the terminator. -/
theorem mem_of_readName {text : Text}
    (read : readName terminator what taken (endingTokens text) position = .ok (name, after)) :
    terminator ∈ text ∧ name = taken ++ text.takeWhile (· != terminator) := by
  induction text generalizing taken position with
  | nil => exact absurd read (readName_nil_ne_ok _)
  | cons c text ih =>
    rcases (readName_cons_eq_ok (Token.plain_ne_dangling c)).1 read with
      ⟨closing, -, rfl, -⟩ | ⟨other, later⟩
    · obtain rfl := Token.plain.inj closing
      simp
    · have apart : c ≠ terminator := fun same => other (congrArg Token.plain same)
      obtain ⟨member, named⟩ := ih later
      refine ⟨List.mem_cons_of_mem _ member, ?_⟩
      rw [named, List.takeWhile_cons_of_pos (by simpa using apart)]
      simp [Token.text]

end Cursor

section Names

variable {one two : Text} {terminator : Char} (what : String) (taken : Text)

/-- A name is read alike in front of both endings, or it goes on into the ending. -/
theorem agrees_readName {left : List Token} {position : Nat} :
    Agrees (fun first second : Text × Cursor => Same one two first second ∨
        terminator ∈ one ∧ ∀ c ∈ one.takeWhile (· != terminator), c ∈ first.1)
      (Cursor.readName terminator what taken (left ++ endingTokens one) position)
      (Cursor.readName terminator what taken (left ++ endingTokens two) position) := by
  induction left generalizing taken position with
  | nil =>
    refine ⟨fun first second read _ => ?_⟩
    obtain ⟨member, named⟩ := Cursor.mem_of_readName read
    exact .inr ⟨member, fun c found => named ▸ List.mem_append_right _ found⟩
  | cons token left ih =>
    rw [List.cons_append, List.cons_append]
    cases token with
    | dangling => exact .fail ..
    | plain c =>
      rw [Cursor.readName, Cursor.readName]
      · simp only
        split
        · split
          · exact .fail ..
          · exact .ok (.inl ⟨rfl, left, _, rfl, rfl⟩)
        · exact ih _
      · exact Token.plain_ne_dangling c
      · exact Token.plain_ne_dangling c
    | escaped c =>
      rw [Cursor.readName, Cursor.readName]
      · exact ih _
      · exact Token.escaped_ne_dangling c
      · exact Token.escaped_ne_dangling c

variable {first second : Cursor}

/-- A name with a terminator that no ending holds is read alike in front of both. -/
theorem Beside.readName_closed (beside : Beside one two first second) (ending : IsEnding one)
    (absent : terminator ∈ ['>', '\x7d']) :
    Agrees (Same one two) (Cursor.readName terminator what taken first.tokens first.position)
      (Cursor.readName terminator what taken second.tokens second.position) := by
  obtain ⟨left, position, rfl, rfl⟩ := beside
  refine ⟨fun value other read read' => ?_⟩
  rcases (agrees_readName what taken).related_of_ok value other read read' with same | ⟨member, -⟩
  · exact same
  · have missing := ending.closed _ member
    simp only [List.mem_cons, List.not_mem_nil, or_false, not_or] at missing absent
    rcases absent with rfl | rfl
    · exact absurd rfl missing.2.1
    · exact absurd rfl missing.2.2.1

/-- A name in parentheses is read alike in front of both endings, or it has a question mark in
it. -/
theorem Beside.readName_marked (beside : Beside one two first second) (ending : IsEnding one) :
    Agrees (fun value other => Same one two value other ∨ '?' ∈ value.1)
      (Cursor.readName ')' what taken first.tokens first.position)
      (Cursor.readName ')' what taken second.tokens second.position) := by
  obtain ⟨left, position, rfl, rfl⟩ := beside
  refine ⟨fun value other read read' => ?_⟩
  rcases (agrees_readName what taken).related_of_ok value other read read' with same | ⟨member, held⟩
  · exact .inl same
  · exact .inr (held '?' (ending.marked member))

end Names

end RoutePattern.Regex
