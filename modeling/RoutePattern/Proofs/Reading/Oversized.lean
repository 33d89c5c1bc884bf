import RoutePattern.Proofs.Reading.Endings.Set

/-!
# Numbers too large to be read

Two kinds of numbers in a regular expression can be too large to be read at all: a count of
repetitions between braces, and the code point of an escape of eight hexadecimal digits, inside or
outside of a set. Where reading gets to such a number (`Meets`), it is refused, but not for a fault
(`Reader.readToken_overflows`).
-/
namespace RoutePattern.Regex

/-- A source is refused for what is wrong with it. -/
def Refusal.IsFault (refusal : Refusal) : Prop := ∃ fault position, refusal = .fault fault position

/-- Something is refused, but not for a fault. -/
def Overflows {α : Type} (result : Except Refusal α) : Prop :=
  ∃ refusal, result = .error refusal ∧ ¬refusal.IsFault

section Overflows

variable {α β : Type} {result : Except Refusal α}

/-- What is refused stays refused, whatever was to follow. -/
theorem Overflows.bind (overflows : Overflows result) (next : α → Except Refusal β) :
    Overflows (result >>= next) := by
  obtain ⟨refusal, rfl, other⟩ := overflows
  exact ⟨refusal, rfl, other⟩

/-- What is refused stays refused, whatever was to be made of it. -/
theorem Overflows.map (overflows : Overflows result) (change : α → β) :
    Overflows (result.map change) := by
  obtain ⟨refusal, rfl, other⟩ := overflows
  exact ⟨refusal, rfl, other⟩

/-- A refusal that no backslash at the end of the source comes before. -/
theorem overflows_refuse {cursor : Cursor} {refusal : Refusal} (sound : .dangling ∉ cursor.tokens)
    (other : ¬refusal.IsFault) : Overflows (cursor.refuse refusal : Except Refusal α) := by
  unfold Cursor.refuse
  split
  · next cut =>
    rw [cut] at sound
    exact absurd (List.mem_cons_self ..) sound
  · exact ⟨refusal, rfl, other⟩

end Overflows

/-! ## Cursors -/

/-- Some characters later there is an end of the tokens that were there. -/
theorem Cursor.takeWhile_suffix (accepts : Char → Bool) (limit : Nat) (cursor : Cursor) :
    (cursor.takeWhile accepts limit).2.tokens <:+ cursor.tokens := by
  induction limit generalizing cursor with
  | zero => exact List.suffix_rfl
  | succ limit ih =>
    rw [takeWhile]
    split
    · next c tokens cut =>
      split
      · rw [cut]
        exact (ih ⟨tokens, cursor.position + 1⟩).trans (List.suffix_cons ..)
      · exact List.suffix_rfl
    · exact List.suffix_rfl

/-- No more characters are taken than the limit allows. -/
theorem Cursor.length_takeWhile (accepts : Char → Bool) (limit : Nat) (cursor : Cursor) :
    (cursor.takeWhile accepts limit).1.length ≤ limit := by
  induction limit generalizing cursor with
  | zero => exact Nat.le_refl 0
  | succ limit ih =>
    rw [takeWhile]
    split
    · next c tokens cut =>
      split
      · exact Nat.succ_le_succ (ih ⟨tokens, cursor.position + 1⟩)
      · exact Nat.zero_le _
    · exact Nat.zero_le _

/-- One token later there is an end of the tokens that were there. -/
theorem Cursor.next_suffix (cursor : Cursor) : cursor.next.tokens <:+ cursor.tokens := by
  unfold next
  split
  · exact List.suffix_rfl
  · next cut =>
    rw [cut]
    exact List.suffix_cons ..

/-- Behind the braces of counts there is an end of the tokens that were there. -/
theorem Reader.braceCounts?_suffix {cursor after : Cursor} {least most : Text}
    (found : braceCounts? cursor = some (least, most, after)) : after.tokens <:+ cursor.tokens := by
  unfold braceCounts? at found
  have first := cursor.takeWhile_suffix Char.isDigit cursor.tokens.length
  split at found
  · exact absurd found (by simp)
  · simp only at found
    split at found
    · split at found
      · simp only [Option.some.injEq, Prod.mk.injEq] at found
        obtain ⟨-, -, rfl⟩ := found
        refine (Cursor.next_suffix _).trans ((Cursor.takeWhile_suffix ..).trans ?_)
        exact (Cursor.next_suffix _).trans first
      · exact absurd found (by simp)
    · split at found
      · simp only [Option.some.injEq, Prod.mk.injEq] at found
        obtain ⟨-, -, rfl⟩ := found
        exact (Cursor.next_suffix _).trans first
      · exact absurd found (by simp)

/-! ## Large numbers -/

/-- Digits of a count of repetitions that is too large, or too long to be read. -/
def IsLargeCount (digits : Text) : Prop :=
  Decimal.digitLimit < digits.length ∨ Reader.countLimit ≤ Decimal.digitsToNat digits

instance : DecidablePred IsLargeCount := fun _ => inferInstanceAs (Decidable (_ ∨ _))

/-- A brace with a count of repetitions that is too large. -/
def MeetsCount (token : Token) (after : Cursor) : Prop :=
  token = .plain '\x7b' ∧ ∃ least most rest, Reader.braceCounts? after = some (least, most, rest) ∧
    (IsLargeCount least ∨ IsLargeCount most)

/-- An escape of eight hexadecimal digits for a number of more than thirty-one bits. -/
def MeetsCode (token : Token) (after : Cursor) : Prop :=
  token = .escaped 'U' ∧ ∃ digits rest, after.takeWhile Text.isHex 8 = (digits, rest) ∧
    digits.length = 8 ∧ 2 ^ 31 ≤ Text.hexNumber digits

/-- From a place inside a set on, items are read up to an escape for a number that is too large. The
place is given as for `readSetItems`. -/
inductive SetMeets :
    List Token → (skip position : Nat) → List SetItem → Pending → Prop
  | here {token : Token} {tokens : List Token} {position : Nat} {items : List SetItem}
    {pending : Pending} (large : MeetsCode token ⟨tokens, position + token.width⟩) :
    SetMeets (token :: tokens) 0 position items pending
  /-- A token of an escape that has been read. -/
  | passed {token : Token} {tokens : List Token} {skip position : Nat} {items : List SetItem}
    {pending : Pending} (later : SetMeets tokens skip (position + token.width) items pending) :
    SetMeets (token :: tokens) (skip + 1) position items pending
  /-- A bracket that comes first is an item. -/
  | first {token : Token} {tokens : List Token} {position : Nat} {items : List SetItem}
    {item : SetItem} {rest : Cursor} (unclosed : token = .plain ']' → items = [])
    (read : readSetItem token position ⟨tokens, position + token.width⟩ = .ok (item, rest))
    (later : SetMeets tokens (tokens.length - rest.tokens.length) (position + token.width) items
      (.item token.text item)) :
    SetMeets (token :: tokens) 0 position items .nothing
  | another {token : Token} {tokens : List Token} {position : Nat} {items : List SetItem}
    {shown : Text} {item next : SetItem} {rest : Cursor} (unclosed : token ≠ .plain ']')
    (apart : token ≠ .plain '-')
    (read : readSetItem token position ⟨tokens, position + token.width⟩ = .ok (next, rest))
    (later : SetMeets tokens (tokens.length - rest.tokens.length) (position + token.width)
      (item :: items) (.item token.text next)) :
    SetMeets (token :: tokens) 0 position items (.item shown item)
  /-- A hyphen that may make a range of the item before it. -/
  | hyphen {tokens : List Token} {position : Nat} {items : List SetItem} {shown : Text}
    {item : SetItem} (later : SetMeets tokens 0 (position + 1) items (.rangeFrom shown item)) :
    SetMeets (.plain '-' :: tokens) 0 position items (.item shown item)
  /-- The end of a range. -/
  | range {token : Token} {tokens : List Token} {position : Nat} {items : List SetItem}
    {shown : Text} {low high range : SetItem} {rest : Cursor} (unclosed : token ≠ .plain ']')
    (read : readSetItem token position ⟨tokens, position + token.width⟩ = .ok (high, rest))
    (made : makeRange shown token.text low high rest = .ok range)
    (later : SetMeets tokens (tokens.length - rest.tokens.length) (position + token.width)
      (range :: items) .nothing) :
    SetMeets (token :: tokens) 0 position items (.rangeFrom shown low)

/-- The cursor after the sign that makes a set the complement of its items. -/
def Cursor.intoSet (cursor : Cursor) : Cursor :=
  if cursor.startsWith '^' then cursor.next else cursor

/-- A number that is too large is read with a token. -/
inductive Meets (token : Token) (after : Cursor) : Prop
  | count (large : MeetsCount token after)
  | code (large : MeetsCode token after)
  | set (opens : token = .plain '[')
    (large : SetMeets after.intoSet.tokens 0 after.intoSet.position [] .nothing)

/-- A scan stands in front of a number that is too large. -/
def Scan.Meets (scan : Scan) : Prop :=
  scan.skip = 0 ∧ ∃ token tokens, scan.tokens = token :: tokens ∧
    Regex.Meets token ⟨tokens, scan.position + token.width⟩

/-! ## Escapes and sets -/

/-- An escape for a number that is too large is no code point. -/
theorem readHexEscape_overflows {token : Token} {after : Cursor} (large : MeetsCode token after)
    (sound : .dangling ∉ after.tokens) (letter : Char) (start : Nat) :
    Overflows (readHexEscape letter 8 start after) := by
  obtain ⟨-, digits, rest, taken, eight, big⟩ := large
  have suffix := after.takeWhile_suffix Text.isHex 8
  rw [taken] at suffix
  have power : Nat.pow 2 31 = 2147483648 := rfl
  unfold readHexEscape
  simp only [taken, eight]
  rw [if_neg (Nat.lt_irrefl 8), if_neg (by omega), if_neg (by omega)]
  refine overflows_refuse (fun found => sound (suffix.subset found)) ?_
  rintro ⟨fault, position, same⟩
  exact Refusal.noConfusion same

/-- An item of a set that is such an escape. -/
theorem readSetItem_overflows {token : Token} {after : Cursor} (large : MeetsCode token after)
    (sound : .dangling ∉ after.tokens) (position : Nat) :
    Overflows (readSetItem token position after) := by
  obtain rfl := large.1
  exact (readHexEscape_overflows large sound 'U' position).map _

/-- An escape that is read as an item of a set does not close it. -/
theorem MeetsCode.readSetItems_overflows {token : Token} {tokens : List Token} {position : Nat}
    (large : MeetsCode token ⟨tokens, position + token.width⟩) (sound : .dangling ∉ tokens)
    (start : Nat) (items : List SetItem) (pending : Pending) :
    Overflows (readSetItems start (token :: tokens) 0 position items pending) := by
  have item := readSetItem_overflows large sound position
  obtain rfl := large.1
  cases pending with
  | nothing =>
    rw [readSetItems_nothing (Token.escaped_ne_dangling 'U')]
    exact item.bind _
  | item shown first =>
    rw [readSetItems_item (Token.escaped_ne_dangling 'U') _ _ _ _ _ Token.noConfusion]
    exact item.bind _
  | rangeFrom shown low =>
    rw [readSetItems_rangeFrom (Token.escaped_ne_dangling 'U') _ _ _ _ _ Token.noConfusion]
    exact item.bind _

/-- The items of a set that lead to a number that is too large. -/
theorem readSetItems_overflows {tokens : List Token} {skip position : Nat} {items : List SetItem}
    {pending : Pending} (meets : SetMeets tokens skip position items pending)
    (sound : .dangling ∉ tokens) (start : Nat) :
    Overflows (readSetItems start tokens skip position items pending) := by
  -- Along the items that are read on the way to the number.
  induction meets with
  | here large =>
    exact large.readSetItems_overflows (fun found => sound (List.mem_cons_of_mem _ found)) ..
  | passed later ih =>
    obtain ⟨apart, others⟩ := List.ne_and_not_mem_of_not_mem_cons sound
    rw [readSetItems_skip apart.symm]
    exact ih others
  | @first token tokens position items item rest unclosed read later ih =>
    obtain ⟨apart, others⟩ := List.ne_and_not_mem_of_not_mem_cons sound
    have opened : ¬(token == .plain ']' && !items.isEmpty) = true := by
      simpa [List.isEmpty_iff] using unclosed
    rw [readSetItems_nothing apart.symm, if_neg opened, readNextItem, read]
    exact ih others
  | another unclosed hyphen read later ih =>
    obtain ⟨apart, others⟩ := List.ne_and_not_mem_of_not_mem_cons sound
    rw [readSetItems_item apart.symm _ _ _ _ _ hyphen, if_neg (by simpa using unclosed),
      readNextItem, read]
    exact ih others
  | hyphen later ih =>
    rw [readSetItems_hyphen]
    exact ih (List.not_mem_of_not_mem_cons sound)
  | range unclosed read made later ih =>
    obtain ⟨apart, others⟩ := List.ne_and_not_mem_of_not_mem_cons sound
    rw [readSetItems_rangeFrom apart.symm _ _ _ _ _ unclosed, readRangeEnd, read]
    simp only [bind, Except.bind, made]
    exact ih others

namespace Reader

variable (reader : Reader)

/-! ## Tokens -/

/-- A count that is too large is refused. -/
theorem readCount_overflows {digits : Text} (large : IsLargeCount digits) {after : Cursor}
    (sound : .dangling ∉ after.tokens) : Overflows (readCount digits after) := by
  unfold readCount
  split
  · exact overflows_refuse sound fun ⟨_, _, same⟩ => Refusal.noConfusion same
  · next short =>
    rw [if_pos (large.resolve_left short)]
    exact overflows_refuse sound fun ⟨_, _, same⟩ => Refusal.noConfusion same

/-- Any other count is read. -/
theorem readCount_ok {digits : Text} (small : ¬IsLargeCount digits) (after : Cursor) :
    readCount digits after = .ok (Decimal.digitsToNat digits) := by
  obtain ⟨short, low⟩ := not_or.1 small
  unfold readCount
  simp only [if_neg short, if_neg low]

/-- No digits are no large count. -/
theorem isEmpty_of_isLargeCount {digits : Text} (large : IsLargeCount digits) :
    ¬digits.isEmpty = true := by
  intro empty
  rw [List.isEmpty_iff.1 empty] at large
  rcases large with long | great
  · exact absurd long (by decide)
  · exact absurd great (by decide)

/-- Braces with a count that is too large. -/
theorem readBraces_overflows {token : Token} {after : Cursor} (large : MeetsCount token after)
    (sound : .dangling ∉ after.tokens) (position : Nat) :
    Overflows (reader.readBraces position after) := by
  obtain ⟨-, least, most, rest, counts, large⟩ := large
  have sound' : .dangling ∉ rest.tokens := fun found =>
    sound ((braceCounts?_suffix counts).subset found)
  unfold readBraces
  simp only [counts]
  by_cases first : IsLargeCount least
  · rw [if_neg (isEmpty_of_isLargeCount first)]
    exact (readCount_overflows first sound').bind _
  · have second := large.resolve_left first
    have overflows : Overflows (some <$> readCount most rest) :=
      (readCount_overflows second sound').map some
    simp only [readCount_ok first, if_neg (isEmpty_of_isLargeCount second)]
    split
    · exact overflows.bind _
    · exact overflows.bind _

/-- A token with a number that is too large. -/
theorem readToken_overflows {token : Token} {after : Cursor} (meets : Meets token after)
    (sound : .dangling ∉ after.tokens) (position : Nat) :
    Overflows (reader.readToken token position after) := by
  cases meets with
  | count large =>
    have braces := reader.readBraces_overflows large sound position
    obtain rfl := large.1
    simpa [readToken, readChar, Unicode.isAsciiBlank] using braces
  | code large =>
    have escape := readHexEscape_overflows large sound 'U' position
    obtain rfl := large.1
    exact escape.map _
  | set opens large =>
    subst opens
    have inside : .dangling ∉ after.intoSet.tokens := by
      unfold Cursor.intoSet
      split
      · exact fun found => sound (after.next_suffix.subset found)
      · exact sound
    have items := readSetItems_overflows large inside position
    have set : Overflows (readSet position after) := items.bind _
    have opened : reader.readToken (.plain '[') position after =
        (readSet position after).map fun result => (reader.push result.1, result.2) := by
      simp [readToken, readChar, Unicode.isAsciiBlank, Functor.map]
    rw [opened]
    exact set.map _

end Reader

/-! ## Scans -/

namespace Scan

/-- A source that does not end in a backslash is read without one. -/
theorem Reaches.sound {one two : Scan} (reaches : one.Reaches two)
    (sound : .dangling ∉ one.tokens) : .dangling ∉ two.tokens := by
  induction reaches with
  | refl => exact sound
  | tail _ next ih =>
    obtain ⟨token, tokens, cut, -, rest, -⟩ := next?_cases next
    rw [cut] at ih
    rw [rest]
    exact List.not_mem_of_not_mem_cons ih

/-- Reading does not get past a number that is too large. -/
theorem readTokens_overflows {one two : Scan} (reaches : one.Reaches two) (meets : two.Meets)
    (sound : .dangling ∉ one.tokens) :
    Overflows (Reader.readTokens one.tokens one.skip one.position one.reader) := by
  have later := reaches.sound sound
  rw [readTokens_of_reaches reaches]
  obtain ⟨skip, token, tokens, cut, meets⟩ := meets
  rw [cut] at later ⊢
  obtain ⟨apart, others⟩ := List.ne_and_not_mem_of_not_mem_cons later
  rw [skip, Reader.readTokens]
  · exact (two.reader.readToken_overflows meets others two.position).bind _
  · exact fun same => apart same.symm

end Scan

end RoutePattern.Regex
