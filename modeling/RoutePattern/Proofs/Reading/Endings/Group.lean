import RoutePattern.Proofs.Reading.Endings.Set

/-!
# Repetitions and groups in front of two endings

What a quantifier or the head of a group makes of a reader is the same in front of both endings, or
one of the two sources is refused. A comment alone may swallow the ending and be sound
(`agrees_openGroup`).
-/
namespace RoutePattern.Regex

namespace Reader

variable {one two : Text} {first second : Cursor} (ending : IsEnding one) (ending' : IsEnding two)
  (beside : Beside one two first second) (reader : Reader)

/-! ## Escapes -/

/-- A look-behind accepts the same references. -/
theorem agrees_checkBehind (index : Nat) (first second : Cursor) :
    Agrees Eq (reader.checkBehind index first) (reader.checkBehind index second) := by
  unfold checkBehind
  split
  · exact .ok rfl
  · split
    · exact .fail ..
    · split
      · exact .fail ..
      · exact .ok rfl

include beside in
/-- A reference to a group. -/
theorem agrees_readReference (index start width : Nat) :
    Agrees (Same one two) (reader.readReference index start width first)
      (reader.readReference index start width second) := by
  unfold readReference
  split
  · exact .fail ..
  · split
    · exact .fail ..
    · exact (agrees_checkBehind ..).bind fun _ _ _ => .ok ⟨rfl, beside⟩

include ending ending' beside in
/-- An escape of digits. -/
theorem agrees_readNumberEscape (digit : Char) (start : Nat) :
    Agrees (Same one two) (reader.readNumberEscape digit start first)
      (reader.readNumberEscape digit start second) := by
  obtain ⟨more, after, after', found, found', later⟩ :=
    beside.takeWhile ending ending' isInner_isDigit 1
  obtain ⟨last, rest, rest', read, read', further⟩ :=
    later.takeWhile ending ending' isInner_isOctal 1
  unfold readNumberEscape
  rw [found, found']
  simp only [read, read']
  split
  · split
    · exact .fail ..
    · exact .ok ⟨rfl, further⟩
  · exact agrees_readReference later ..

include ending ending' beside in
/-- An escape outside of sets. -/
theorem agrees_readEscape (letter : Char) (start : Nat) :
    Agrees (Same one two) (reader.readEscape letter start first)
      (reader.readEscape letter start second) := by
  obtain ⟨digits, after, after', found, found', later⟩ :=
    beside.takeWhile ending ending' isInner_isOctal 2
  unfold readEscape
  split
  · exact .ok ⟨rfl, beside⟩
  · exact .ok ⟨rfl, beside⟩
  · exact .ok ⟨rfl, beside⟩
  · rcases agrees_readCodeEscape? ending ending' beside letter start with
      ⟨none, none'⟩ | ⟨result, result', some, some', agrees⟩
    · rw [none, none', found, found']
      simp only
      split
      · exact .ok ⟨rfl, later⟩
      · split
        · exact agrees_readNumberEscape ending ending' beside ..
        · exact (agrees_readPlainEscape letter start first second).map fun _ _ same =>
            ⟨congrArg (fun code => reader.push (.char code)) same, beside⟩
    · rw [some, some']
      exact agrees.map fun _ _ same =>
        ⟨congrArg (fun code => reader.push (.char code)) same.1, same.2⟩

/-! ## Repetitions -/

/-- Digits stand for the same count. -/
theorem agrees_readCount (digits : Text) (first second : Cursor) :
    Agrees Eq (readCount digits first) (readCount digits second) := by
  unfold readCount
  split
  · exact .refuse ..
  · simp only
    split
    · exact .refuse ..
    · exact .ok rfl

include ending ending' beside in
/-- Braces hold the same counts, or none. -/
theorem agrees_braceCounts? : (braceCounts? first = none ∧ braceCounts? second = none) ∨
    ∃ least most after after', braceCounts? first = some (least, most, after) ∧
      braceCounts? second = some (least, most, after') ∧ Beside one two after after' := by
  have brace : '\x7d' ∉ ['$', '/', '('] := by decide
  obtain ⟨empty, -⟩ := beside.startsWith ending ending' brace
  obtain ⟨least, after, after', found, found', later, less, less'⟩ :=
    beside.takeWhile_all ending ending' isInner_isDigit (Nat.le_refl _) (Nat.le_refl _)
  obtain ⟨comma, afterComma⟩ :=
    later.startsWith ending ending' (show ',' ∉ ['$', '/', '('] by decide)
  -- The second count is the first one where there is no comma.
  obtain ⟨most, rest, rest', read, read', further⟩ : ∃ most rest rest',
      (if after.startsWith ',' then after.next.takeWhile Char.isDigit first.tokens.length
        else (least, after)) = (most, rest) ∧
      (if after'.startsWith ',' then after'.next.takeWhile Char.isDigit second.tokens.length
        else (least, after')) = (most, rest') ∧ Beside one two rest rest' := by
    rw [comma]
    split
    · next here =>
      obtain ⟨most, rest, rest', read, read', further, -⟩ :=
        (afterComma here).takeWhile_all ending ending' isInner_isDigit
          (after.length_next_le.trans less) (after'.length_next_le.trans less')
      exact ⟨most, rest, rest', read, read', further⟩
    · exact ⟨least, after, after', rfl, rfl, later⟩
  obtain ⟨closed, afterBrace⟩ := further.startsWith ending ending' brace
  unfold braceCounts?
  rw [empty, found, found']
  simp only [read, read', closed]
  split
  · exact .inl ⟨rfl, rfl⟩
  · split
    · next here => exact .inr ⟨least, most, rest.next, rest'.next, rfl, rfl, afterBrace here⟩
    · exact .inl ⟨rfl, rfl⟩

include ending ending' beside in
/-- A repetition of the latest item. -/
theorem agrees_repeatLatest (least : Nat) (most : Option Nat) (position : Nat) :
    Agrees (Same one two) (reader.repeatLatest least most position first)
      (reader.repeatLatest least most position second) := by
  obtain ⟨lazy, afterLazy⟩ :=
    beside.startsWith ending ending' (show '?' ∉ ['$', '/', '('] by decide)
  obtain ⟨possessive, afterPossessive⟩ :=
    beside.startsWith ending ending' (show '+' ∉ ['$', '/', '('] by decide)
  unfold repeatLatest
  rw [lazy, possessive]
  split
  · exact .fail ..
  · exact .fail ..
  · exact .fail ..
  · cases less : second.startsWith '?' with
    | true => exact .ok ⟨rfl, afterLazy less⟩
    | false =>
      cases whole : second.startsWith '+' with
      | true => exact .ok ⟨rfl, afterPossessive whole⟩
      | false => exact .ok ⟨rfl, beside⟩

include ending ending' beside in
/-- Braces after an item, or braces that stand for themselves. -/
theorem agrees_readBraces (position : Nat) :
    Agrees (Same one two) (reader.readBraces position first)
      (reader.readBraces position second) := by
  unfold readBraces
  rcases agrees_braceCounts? ending ending' beside with
    ⟨none, none'⟩ | ⟨least, most, after, after', found, found', later⟩
  · rw [none, none']
    exact .ok ⟨rfl, beside⟩
  · rw [found, found']
    simp only
    have last (least : Nat) (most : Option Nat) : Agrees (Same one two)
        (if most.any (· < least) then after.fail .repeatBoundsReversed first.position
          else reader.repeatLatest least most position after)
        (if most.any (· < least) then after'.fail .repeatBoundsReversed second.position
          else reader.repeatLatest least most position after') := by
      split
      · exact .fail ..
      · exact agrees_repeatLatest ending ending' later ..
    have upper (least : Nat) {result result' : Except Refusal (Option Nat)}
        (agrees : Agrees Eq result result') : Agrees (Same one two)
          (result >>= fun most =>
            if most.any (· < least) then after.fail .repeatBoundsReversed first.position
            else reader.repeatLatest least most position after)
          (result' >>= fun most =>
            if most.any (· < least) then after'.fail .repeatBoundsReversed second.position
            else reader.repeatLatest least most position after') :=
      agrees.bind fun bound bound' same => by
        subst same
        exact last least bound
    have counted := agrees_readCount most after after'
    have bound : Agrees Eq (some <$> readCount most after) (some <$> readCount most after') :=
      counted.map fun _ _ same => congrArg _ same
    split
    · split
      · exact last 0 none
      · exact upper 0 bound
    · refine (agrees_readCount least after after').bind fun count count' same => ?_
      subst same
      split
      · exact last count none
      · exact upper count bound

end Reader

/-! ## Flags -/

section Flags

variable {one two : Text} {first second : Cursor} (ending : IsEnding one)
  (beside : Beside one two first second)

/-- What is no flag is refused. -/
theorem Agrees.refuseFlag {α β : Type} {related : α → β → Prop} {result : Except Refusal β}
    (what : String) (token : Token) (position : Nat) (after : Cursor) :
    Agrees related (refuseFlag what token position after) result := by
  unfold Regex.refuseFlag
  split
  · exact .fail ..
  · exact .fail ..

include ending in
/-- Flags to be turned on. -/
theorem agrees_readFlagsOn (flag : FlagName) (on : List FlagName) {left : List Token}
    (position : Nat) :
    Agrees (fun value other : List FlagName × Char × Cursor => value.1 = other.1 ∧
        Same one two value.2 other.2)
      (readFlagsOn flag on (left ++ endingTokens one) position)
      (readFlagsOn flag on (left ++ endingTokens two) position) := by
  -- On the tokens in front of the ending: flags that run into it are refused with either ending.
  induction left generalizing flag on position with
  | nil =>
    rw [List.nil_append]
    unfold readFlagsOn
    cases flagFault? flag on with
    | some fault => exact .fail ..
    | none =>
      rcases ending.cases with none | ⟨c, tokens, cut, first⟩
      · rw [none]
        exact .fail ..
      · rw [cut]
        rcases first with rfl | rfl | rfl <;> exact .refuseFlag ..
  | cons token left ih =>
    rw [List.cons_append, List.cons_append]
    unfold readFlagsOn
    cases flagFault? flag on with
    | some fault => exact .fail ..
    | none =>
      simp only
      split
      · exact .fail ..
      · exact ih ..
      · exact .ok ⟨rfl, rfl, left, _, rfl, rfl⟩
      · exact .ok ⟨rfl, rfl, left, _, rfl, rfl⟩
      · exact .ok ⟨rfl, rfl, left, _, rfl, rfl⟩
      · exact .refuseFlag ..

include ending in
/-- Flags to be turned off. -/
theorem agrees_readFlagsOff (flag : FlagName) (off : List FlagName) {left : List Token}
    (position : Nat) :
    Agrees (Same one two) (readFlagsOff flag off (left ++ endingTokens one) position)
      (readFlagsOff flag off (left ++ endingTokens two) position) := by
  induction left generalizing flag off position with
  | nil =>
    rw [List.nil_append]
    unfold readFlagsOff
    cases flag.isAlphabet with
    | true => exact .fail ..
    | false =>
      rcases ending.cases with none | ⟨c, tokens, cut, first⟩
      · rw [none]
        exact .fail ..
      · rw [cut]
        rcases first with rfl | rfl | rfl <;> exact .refuseFlag ..
  | cons token left ih =>
    rw [List.cons_append, List.cons_append]
    unfold readFlagsOff
    cases flag.isAlphabet with
    | true => exact .fail ..
    | false =>
      simp only
      split
      · exact .fail ..
      · exact ih ..
      · exact .ok ⟨rfl, left, _, rfl, rfl⟩
      · exact .refuseFlag ..

include ending beside in
/-- Flags to be turned off after a hyphen. -/
theorem agrees_readOff : Agrees (Same one two) (readOff first) (readOff second) := by
  obtain ⟨left, position, rfl, rfl⟩ := beside
  unfold readOff
  cases left with
  | nil =>
    simp only [List.nil_append]
    rcases ending.cases with none | ⟨c, tokens, cut, first⟩
    · rw [none]
      exact .fail ..
    · rw [cut]
      rcases first with rfl | rfl | rfl <;> exact .refuseFlag ..
  | cons token left =>
    simp only [List.cons_append]
    split
    · exact .fail ..
    · exact agrees_readFlagsOff ending ..
    · exact .refuseFlag ..

include beside in
/-- A change of flags. -/
theorem agrees_checkChange (on off : List FlagName) :
    Agrees (Same one two) (checkChange on off first) (checkChange on off second) := by
  unfold checkChange
  split
  · exact .fail ..
  · split
    · exact .fail ..
    · exact .ok ⟨rfl, beside⟩

include ending beside in
/-- All flags of a group. -/
theorem agrees_readFlags (flag : Option FlagName) :
    Agrees (Same one two) (readFlags flag first) (readFlags flag second) := by
  have off (on : List FlagName) {first second : Cursor} (beside : Beside one two first second) :
      Agrees (Same one two) (readOff first >>= fun result => checkChange on result.1 result.2)
        (readOff second >>= fun result => checkChange on result.1 result.2) := by
    refine (agrees_readOff ending beside).bind fun value other same => ?_
    rw [same.1]
    exact agrees_checkChange same.2 ..
  unfold readFlags
  cases flag with
  | none => exact off [] beside
  | some flag =>
    obtain ⟨left, position, rfl, rfl⟩ := beside
    refine (agrees_readFlagsOn ending flag [] position).bind fun value other same => ?_
    obtain ⟨on, terminator, after⟩ := value
    obtain ⟨on', terminator', after'⟩ := other
    obtain ⟨rfl, rfl, later⟩ := same
    simp only
    split
    · exact .ok ⟨rfl, later⟩
    · split
      · exact .fail ..
      · split
        · exact off on later
        · exact agrees_checkChange later ..

end Flags

end RoutePattern.Regex
