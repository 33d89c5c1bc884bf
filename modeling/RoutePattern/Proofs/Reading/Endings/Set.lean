import RoutePattern.Proofs.Reading.Endings.Cursor

/-!
# Escapes and sets in front of two endings

What follows a backslash and what stands between brackets is read alike in front of both endings. A
set that is still open where the text ends stays open, for no ending holds a bracket.
-/
namespace RoutePattern.Regex

variable {one two : Text} {first second : Cursor} (ending : IsEnding one) (ending' : IsEnding two)
  (beside : Beside one two first second)

/-! ## Escapes -/

/-- No ending starts with a hexadecimal digit. -/
theorem isInner_isHex : IsInner Text.isHex := by
  exact Text.forall_mem_iff_all.2 (by decide)

/-- No ending starts with an octal digit. -/
theorem isInner_isOctal : IsInner isOctal := by
  exact Text.forall_mem_iff_all.2 (by decide)

/-- No ending starts with a digit. -/
theorem isInner_isDigit : IsInner Char.isDigit := by
  exact Text.forall_mem_iff_all.2 (by decide)

include ending ending' beside in
/-- A hexadecimal escape. -/
theorem agrees_readHexEscape (letter : Char) (count start : Nat) :
    Agrees (Same one two) (readHexEscape letter count start first)
      (readHexEscape letter count start second) := by
  obtain ⟨digits, after, after', found, found', later⟩ :=
    beside.takeWhile ending ending' isInner_isHex count
  unfold readHexEscape
  rw [found, found']
  simp only
  split
  · exact .fail ..
  · split
    · exact .ok ⟨rfl, later⟩
    · split
      · exact .fail ..
      · exact .refuse ..

include ending ending' beside in
/-- A character by its name. -/
theorem agrees_readNamedEscape (start : Nat) :
    Agrees (Same one two) (readNamedEscape start first) (readNamedEscape start second) := by
  obtain ⟨same, next⟩ := beside.startsWith ending ending' (show '\x7b' ∉ ['$', '/', '('] by decide)
  unfold readNamedEscape
  rw [same]
  split
  · next opened =>
    refine ((next opened).readName_closed _ _ ending (by decide)).bind fun value other same => ?_
    obtain ⟨name, after⟩ := value
    obtain ⟨name', after'⟩ := other
    obtain ⟨rfl, later⟩ := same
    simp only
    split
    · exact .ok ⟨rfl, later⟩
    · exact .fail ..
  · exact .fail ..

include ending ending' beside in
/-- An escape that names a code point. -/
theorem agrees_readCodeEscape? (letter : Char) (start : Nat) :
    (readCodeEscape? letter start first = none ∧ readCodeEscape? letter start second = none) ∨
      ∃ result result', readCodeEscape? letter start first = some result ∧
        readCodeEscape? letter start second = some result' ∧
        Agrees (Same one two) result result' := by
  have hexed (letter : Char) (count : Nat) :=
    agrees_readHexEscape ending ending' beside letter count start
  unfold readCodeEscape?
  split
  · exact .inr ⟨_, _, rfl, rfl, hexed _ _⟩
  split
  · exact .inr ⟨_, _, rfl, rfl, hexed _ _⟩
  split
  · exact .inr ⟨_, _, rfl, rfl, hexed _ _⟩
  split
  · exact .inr ⟨_, _, rfl, rfl, agrees_readNamedEscape ending ending' beside start⟩
  · exact .inl ⟨rfl, rfl⟩

/-- An escape without a meaning of its own stands for the same character. -/
theorem agrees_readPlainEscape (letter : Char) (start : Nat) (first second : Cursor) :
    Agrees Eq (readPlainEscape letter start first) (readPlainEscape letter start second) := by
  unfold readPlainEscape
  split
  · exact .fail ..
  · exact .ok rfl

include ending ending' beside in
/-- An escape inside a set. -/
theorem agrees_readSetEscape (letter : Char) (start : Nat) :
    Agrees (Same one two) (readSetEscape letter start first)
      (readSetEscape letter start second) := by
  obtain ⟨digits, after, after', found, found', later⟩ :=
    beside.takeWhile ending ending' isInner_isOctal 2
  unfold readSetEscape
  split
  · exact .ok ⟨rfl, beside⟩
  split
  · exact .ok ⟨rfl, beside⟩
  · exact .ok ⟨rfl, beside⟩
  · rcases agrees_readCodeEscape? ending ending' beside letter start with
      ⟨none, none'⟩ | ⟨result, result', some, some', agrees⟩
    · rw [none, none', found, found']
      simp only
      split
      · split
        · exact .fail ..
        · exact .ok ⟨rfl, later⟩
      · exact (agrees_readPlainEscape letter start first second).map fun _ _ same =>
          ⟨congrArg SetItem.char same, beside⟩
    · rw [some, some']
      exact agrees.map fun _ _ same => ⟨congrArg SetItem.char same.1, same.2⟩

/-! ## Sets -/

include ending ending' beside in
/-- An item of a set. -/
theorem agrees_readSetItem (token : Token) (position : Nat) :
    Agrees (Same one two) (readSetItem token position first)
      (readSetItem token position second) := by
  unfold readSetItem
  split
  · exact agrees_readSetEscape ending ending' beside ..
  · exact .ok ⟨rfl, beside⟩
  · exact .fail ..

/-- A range hangs on its two items alone. -/
theorem agrees_makeRange (shownLow shownHigh : Text) (low high : SetItem) (first second : Cursor) :
    Agrees Eq (makeRange shownLow shownHigh low high first)
      (makeRange shownLow shownHigh low high second) := by
  unfold makeRange
  simp only
  split
  · split
    · exact .fail ..
    · exact .ok rfl
  · exact .fail ..

/-- The next item of a set, which may be the start of a range and so is kept apart until the token
after it. -/
def readNextItem (start : Nat) (token : Token) (tokens : List Token) (position : Nat)
    (items : List SetItem) : Except Refusal (List SetItem × Cursor) := do
  let (item, rest) ← readSetItem token position ⟨tokens, position + token.width⟩
  readSetItems start tokens (tokens.length - rest.tokens.length) (position + token.width) items
    (.item token.text item)

/-- The end of a range, and the items after it. -/
def readRangeEnd (start : Nat) (token : Token) (tokens : List Token) (position : Nat)
    (items : List SetItem) (shown : Text) (low : SetItem) :
    Except Refusal (List SetItem × Cursor) := do
  let (high, rest) ← readSetItem token position ⟨tokens, position + token.width⟩
  let range ← makeRange shown token.text low high rest
  readSetItems start tokens (tokens.length - rest.tokens.length) (position + token.width)
    (range :: items) .nothing

section Equations

variable {token : Token} (other : token ≠ .dangling) (tokens : List Token)
  (start position : Nat) (items : List SetItem) (shown : Text)

include other in
/-- A token that belongs to an escape is passed over. -/
theorem readSetItems_skip (skip : Nat) (pending : Pending) :
    readSetItems start (token :: tokens) (skip + 1) position items pending =
      readSetItems start tokens skip (position + token.width) items pending := by
  rw [readSetItems]
  exact other

include other in
/-- A set goes on with an item, or is closed if it has one. -/
theorem readSetItems_nothing :
    readSetItems start (token :: tokens) 0 position items .nothing =
      if token == .plain ']' && !items.isEmpty then .ok (items, ⟨tokens, position + token.width⟩)
      else readNextItem start token tokens position items := by
  rw [readSetItems]
  · rfl
  · exact other

include other in
/-- Without a hyphen after it, an item is no start of a range. -/
theorem readSetItems_item (apart : token ≠ .plain '-') (item : SetItem) :
    readSetItems start (token :: tokens) 0 position items (.item shown item) =
      if token == .plain ']' then .ok (item :: items, ⟨tokens, position + token.width⟩)
      else readNextItem start token tokens position (item :: items) := by
  rw [readSetItems]
  · rfl
  · exact other
  · exact apart

/-- A hyphen after an item may make it the start of a range. -/
theorem readSetItems_hyphen (item : SetItem) :
    readSetItems start (.plain '-' :: tokens) 0 position items (.item shown item) =
      readSetItems start tokens 0 (position + 1) items (.rangeFrom shown item) := rfl

include other in
/-- A range goes on to its second item. -/
theorem readSetItems_rangeFrom (apart : token ≠ .plain ']') (low : SetItem) :
    readSetItems start (token :: tokens) 0 position items (.rangeFrom shown low) =
      readRangeEnd start token tokens position items shown low := by
  rw [readSetItems]
  · rfl
  · exact other
  · exact apart

end Equations

/-- A set that is open in front of an ending is never closed. -/
theorem readSetItems_ending {text : Text} (unclosed : ∀ c ∈ text, c ≠ ']') (start position : Nat)
    (items : List SetItem) (pending : Pending) (value : List SetItem × Cursor) :
    readSetItems start (endingTokens text) 0 position items pending ≠ .ok value := by
  -- Over the ending: only a bracket closes the set, and no character of an ending is one.
  induction text generalizing position items pending with
  | nil => exact Cursor.fail_ne_ok _ _ _ _
  | cons c text ih =>
    obtain ⟨other, others⟩ := List.forall_mem_cons.1 unclosed
    have bracket : (Token.plain c == .plain ']') = false := by simpa using other
    have later := ih others
    have next (items : List SetItem) :
        readNextItem start (.plain c) (endingTokens text) position items ≠ .ok value := by
      rw [← Nat.sub_self (endingTokens text).length] at later
      exact later _ _ _
    rw [endingTokens, List.map_cons, ← endingTokens]
    cases pending with
    | nothing =>
      rw [readSetItems_nothing (Token.plain_ne_dangling c), bracket]
      exact next items
    | item shown item =>
      by_cases hyphen : c = '-'
      · subst hyphen
        exact later _ _ _
      · rw [readSetItems_item (Token.plain_ne_dangling c) _ _ _ _ _
          fun same => hyphen (Token.plain.inj same), bracket]
        exact next (item :: items)
    | rangeFrom shown low =>
      rw [readSetItems_rangeFrom (Token.plain_ne_dangling c) _ _ _ _ _
        fun same => other (Token.plain.inj same)]
      cases range : makeRange shown (Token.plain c).text low (.char c.toNat)
          ⟨endingTokens text, position + 1⟩ with
      | error refusal =>
        simp [readRangeEnd, readSetItem, Token.width, range, bind, Except.bind]
      | ok range' =>
        rw [← Nat.sub_self (endingTokens text).length] at later
        simp only [readRangeEnd, readSetItem, Token.width, range, bind, Except.bind]
        exact later _ _ _

/-- From some tokens on the items of a set are read alike in front of both endings. -/
def SetsAgree (one two : Text) (start : Nat) (left : List Token) : Prop :=
  ∀ skip ≤ left.length, ∀ position items pending, Agrees (Same one two)
    (readSetItems start (left ++ endingTokens one) skip position items pending)
    (readSetItems start (left ++ endingTokens two) skip position items pending)

namespace SetsAgree

variable {start : Nat} {left : List Token} (later : SetsAgree one two start left)

include later in
/-- They are read alike from cursors that stand beside each other. -/
theorem after {first second : Cursor} (beside : Beside one two first second) (position : Nat)
    (items : List SetItem) (pending : Pending) : Agrees (Same one two)
      (readSetItems start (left ++ endingTokens one)
        ((left ++ endingTokens one).length - first.tokens.length) position items pending)
      (readSetItems start (left ++ endingTokens two)
        ((left ++ endingTokens two).length - second.tokens.length) position items pending) := by
  obtain ⟨less, same⟩ := beside.length_sub left
  rw [← same]
  exact later _ less _ _ _

include ending ending' later in
/-- One more item. -/
theorem readNextItem (token : Token) (position : Nat) (items : List SetItem) :
    Agrees (Same one two)
      (Regex.readNextItem start token (left ++ endingTokens one) position items)
      (Regex.readNextItem start token (left ++ endingTokens two) position items) := by
  refine (agrees_readSetItem ending ending' ⟨left, _, rfl, rfl⟩ token position).bind
    fun value other same => ?_
  obtain ⟨item, rest⟩ := value
  obtain ⟨item', rest'⟩ := other
  obtain ⟨rfl, further⟩ := same
  exact later.after further ..

include ending ending' later in
/-- The end of a range. -/
theorem readRangeEnd (token : Token) (position : Nat) (items : List SetItem) (shown : Text)
    (low : SetItem) : Agrees (Same one two)
      (Regex.readRangeEnd start token (left ++ endingTokens one) position items shown low)
      (Regex.readRangeEnd start token (left ++ endingTokens two) position items shown low) := by
  refine (agrees_readSetItem ending ending' ⟨left, _, rfl, rfl⟩ token position).bind
    fun value other same => ?_
  obtain ⟨high, rest⟩ := value
  obtain ⟨high', rest'⟩ := other
  obtain ⟨rfl, further⟩ := same
  refine (agrees_makeRange ..).bind fun range range' same => ?_
  subst same
  exact later.after further ..

include ending ending' later in
/-- One more token. -/
theorem cons (token : Token) : SetsAgree one two start (token :: left) := by
  intro skip inside position items pending
  rw [List.cons_append, List.cons_append]
  by_cases dangling : token = .dangling
  · subst dangling
    rw [readSetItems]
    exact .fail ..
  have closed (items : List SetItem) : Agrees (Same one two)
      (.ok (items, ⟨left ++ endingTokens one, position + token.width⟩))
      (.ok (items, ⟨left ++ endingTokens two, position + token.width⟩)) :=
    .ok ⟨rfl, left, _, rfl, rfl⟩
  cases skip with
  | succ skip =>
    rw [readSetItems_skip dangling, readSetItems_skip dangling]
    exact later _ (Nat.le_of_succ_le_succ inside) _ _ _
  | zero =>
    -- A bracket closes the set except where it would be the first item.
    cases pending with
    | nothing =>
      rw [readSetItems_nothing dangling, readSetItems_nothing dangling]
      exact .ite (fun _ => closed _) fun _ => later.readNextItem ending ending' ..
    | item shown item =>
      by_cases hyphen : token = .plain '-'
      · subst hyphen
        rw [readSetItems_hyphen, readSetItems_hyphen]
        exact later _ (Nat.zero_le _) _ _ _
      · rw [readSetItems_item dangling _ _ _ _ _ hyphen,
          readSetItems_item dangling _ _ _ _ _ hyphen]
        exact .ite (fun _ => closed _) fun _ => later.readNextItem ending ending' ..
    | rangeFrom shown low =>
      by_cases bracket : token = .plain ']'
      · subst bracket
        exact closed _
      · rw [readSetItems_rangeFrom dangling _ _ _ _ _ bracket,
          readSetItems_rangeFrom dangling _ _ _ _ _ bracket]
        exact later.readRangeEnd ending ending' ..

end SetsAgree

include ending ending' in
/-- The items of a set are read alike, or the set is open where the text ends. -/
theorem setsAgree (start : Nat) (left : List Token) : SetsAgree one two start left := by
  induction left with
  | nil =>
    intro skip inside position items pending
    obtain rfl := Nat.le_zero.1 inside
    refine .refused (readSetItems_ending (fun c found same => ?_) _ _ _ _)
    exact ending.closed c found (by simp [same])
  | cons token left ih => exact ih.cons ending ending' token

include ending ending' beside in
/-- A set. -/
theorem agrees_readSet (start : Nat) :
    Agrees (Same one two) (readSet start first) (readSet start second) := by
  obtain ⟨same, next⟩ := beside.startsWith ending ending' (show '^' ∉ ['$', '/', '('] by decide)
  have inside : Beside one two (if second.startsWith '^' then first.next else first)
      (if second.startsWith '^' then second.next else second) := by
    split
    · next negated => exact next negated
    · exact beside
  unfold readSet
  simp only [same]
  obtain ⟨left, position, cut, cut'⟩ := inside
  rw [cut, cut']
  refine (setsAgree ending ending' start left 0 (Nat.zero_le _) _ _ _).bind
    fun value other same => ?_
  obtain ⟨items, after⟩ := value
  obtain ⟨items', after'⟩ := other
  obtain ⟨rfl, later⟩ := same
  simp only
  split
  · exact .ok ⟨rfl, later⟩
  · exact .ok ⟨rfl, later⟩
  · exact .ok ⟨rfl, later⟩

end RoutePattern.Regex
