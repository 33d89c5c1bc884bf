import RoutePattern.Proofs.Reading.Faults

/-!
# Flags and reading

The flags of a whole expression are set before anything else is read. From then on reading does not
look at them: a reader with other flags reads every token in the same way and refuses the same
(`readTokens_withFlags`), so that it becomes the same expression under these flags
(`ofReader_withFlags`).
-/
namespace RoutePattern.Regex

/-- The reader with other flags for the whole expression. -/
def Reader.withFlags (flags : Flags) (reader : Reader) : Reader := { reader with flags := flags }

/-- What a reader has read, with other flags for the whole expression. -/
abbrev reflagged (flags : Flags) (read : Reader × Cursor) : Reader × Cursor :=
  (read.1.withFlags flags, read.2)

/-- The other result is the same one, read under other flags. -/
def Reflags (flags : Flags) (result other : Except Refusal (Reader × Cursor)) : Prop :=
  other = result.map (reflagged flags)

namespace Reflags

variable {flags : Flags} {α : Type} {first second first' second' : Except Refusal (Reader × Cursor)}

/-- Something is read. -/
theorem ok (reader : Reader) (cursor : Cursor) :
    Reflags flags (.ok (reader, cursor)) (.ok (reader.withFlags flags, cursor)) := rfl

/-- The same refusal. -/
theorem error (refusal : Refusal) : Reflags flags (.error refusal) (.error refusal) := rfl

/-- The same refusal at a cursor. -/
theorem refuse (cursor : Cursor) (refusal : Refusal) :
    Reflags flags (cursor.refuse refusal) (cursor.refuse refusal) := by
  unfold Cursor.refuse
  split
  · exact .error _
  · exact .error _

/-- The same fault at a cursor. -/
theorem fail (cursor : Cursor) (fault : Fault) (position : Nat) :
    Reflags flags (cursor.fail fault position) (cursor.fail fault position) := .refuse ..

/-- One of two results. -/
theorem ite {condition : Prop} [Decidable condition]
    (yes : condition → Reflags flags first first') (no : ¬condition → Reflags flags second second') :
    Reflags flags (if condition then first else second) (if condition then first' else second') := by
  split
  · next holds => exact yes holds
  · next fails => exact no fails

/-- After something that does not look at the flags. -/
theorem bind {read : Except Refusal α} {next other : α → Except Refusal (Reader × Cursor)}
    (reflags : ∀ value, Reflags flags (next value) (other value)) :
    Reflags flags (read >>= next) (read >>= other) := by
  cases read with
  | error refusal => exact .error refusal
  | ok value => exact reflags value

/-- A value that does not depend on the flags is put into the reader. -/
theorem map {read : Except Refusal α} {make other : α → Reader × Cursor}
    (same : ∀ value, other value = reflagged flags (make value)) :
    Reflags flags (read.map make) (read.map other) := by
  cases read with
  | error refusal => exact .error refusal
  | ok value => exact congrArg Except.ok (same value)

end Reflags

namespace Reader

variable (reader : Reader) (flags : Flags) (start position : Nat) (cursor : Cursor)

/-! ## Escapes and repetitions -/

/-- A reference to a group. -/
theorem reflags_readReference (index width : Nat) (after : Cursor) :
    Reflags flags (reader.readReference index start width after)
      ((reader.withFlags flags).readReference index start width after) := by
  unfold readReference
  exact .ite (fun _ => .fail ..) fun _ => .ite (fun _ => .fail ..) fun _ => .bind fun _ => .ok ..

/-- An escape that starts with a digit other than zero. -/
theorem reflags_readNumberEscape (digit : Char) :
    Reflags flags (reader.readNumberEscape digit start cursor)
      ((reader.withFlags flags).readNumberEscape digit start cursor) := by
  unfold readNumberEscape
  refine .ite (fun _ => ?_) fun _ => reflags_readReference ..
  exact .ite (fun _ => .fail ..) fun _ => .ok ..

/-- An escape. -/
theorem reflags_readEscape (letter : Char) :
    Reflags flags (reader.readEscape letter start cursor)
      ((reader.withFlags flags).readEscape letter start cursor) := by
  unfold readEscape
  split
  · exact .ok ..
  · exact .ok ..
  · exact .ok ..
  · split
    · exact .map fun _ => rfl
    · refine .ite (fun _ => .ok ..) fun _ => .ite (fun _ => reflags_readNumberEscape ..) fun _ => ?_
      exact .map fun _ => rfl

/-- The latest item repeated. -/
theorem reflags_repeatLatest (least : Nat) (most : Option Nat) :
    Reflags flags (reader.repeatLatest least most position cursor)
      ((reader.withFlags flags).repeatLatest least most position cursor) := by
  unfold repeatLatest
  dsimp only [withFlags]
  split
  · exact .fail ..
  · exact .fail ..
  · exact .fail ..
  · exact .ok ..

/-- Braces. -/
theorem reflags_readBraces :
    Reflags flags (reader.readBraces position cursor)
      ((reader.withFlags flags).readBraces position cursor) := by
  unfold readBraces
  split
  · exact .ok ..
  · next leastDigits mostDigits after _ =>
    have second (least : Nat) (result : Except Refusal (Option Nat)) : Reflags flags
        (result >>= fun most =>
          if most.any (· < least) then after.fail .repeatBoundsReversed cursor.position
          else reader.repeatLatest least most position after)
        (result >>= fun most =>
          if most.any (· < least) then after.fail .repeatBoundsReversed cursor.position
          else (reader.withFlags flags).repeatLatest least most position after) :=
      .bind fun most => .ite (fun _ => .fail ..) fun _ => reflags_repeatLatest ..
    simp only
    split
    · refine .bind fun least => ?_
      split
      · exact second least _
      · exact second least _
    · refine .bind fun least => ?_
      split
      · exact second least _
      · exact second least _

/-! ## Opening groups -/

/-- A group with a name. -/
theorem reflags_openNamed :
    Reflags flags (reader.openNamed start cursor)
      ((reader.withFlags flags).openNamed start cursor) := by
  unfold openNamed
  dsimp only [withFlags]
  refine .bind fun name => .ite (fun _ => .fail ..) fun _ => ?_
  split
  · exact .fail ..
  · exact .ok ..

/-- A reference by name. -/
theorem reflags_readNamedReference :
    Reflags flags (reader.readNamedReference cursor)
      ((reader.withFlags flags).readNamedReference cursor) := by
  unfold readNamedReference
  dsimp only [withFlags]
  refine .bind fun name => .ite (fun _ => .fail ..) fun _ => ?_
  split
  · exact .fail ..
  · exact .ite (fun _ => .fail ..) fun _ => .bind fun _ => .ok ..

/-- The group of a condition. -/
theorem conditionGroup_withFlags (name : Text) (after : Cursor) :
    (reader.withFlags flags).conditionGroup name position after =
      (reader.conditionGroup name position after).map fun (index, reader) =>
        (index, reader.withFlags flags) := by
  unfold conditionGroup
  dsimp only [withFlags]
  have refused (fault : Fault) : after.fail fault position =
      (after.fail fault position : Except Refusal (Nat × Reader)).map fun (index, reader) =>
        (index, reader.withFlags flags) := by
    unfold Cursor.fail Cursor.refuse
    split
    · rfl
    · rfl
  split
  · split
    · exact refused _
    · rfl
  · split
    · split
      · exact refused _
      · split
        · exact refused _
        · split
          · next known => exact if_pos known
          · next unknown => exact if_neg unknown
    · exact refused _

/-- A condition. -/
theorem reflags_openConditional :
    Reflags flags (reader.openConditional start cursor)
      ((reader.withFlags flags).openConditional start cursor) := by
  unfold openConditional
  dsimp only
  refine .bind fun name => ?_
  rw [conditionGroup_withFlags]
  cases reader.conditionGroup name.1 cursor.position name.2 with
  | error refusal => exact .error refusal
  | ok result => exact .bind fun _ => .ok ..

variable {reader}

/-- Flags after a parenthesis, where flags of the whole expression are no longer accepted. -/
theorem reflags_openFlags (started : reader.Started) (first : Option FlagName) :
    Reflags flags (reader.openFlags first start cursor)
      ((reader.withFlags flags).openFlags first start cursor) := by
  unfold openFlags
  dsimp only [withFlags]
  refine .bind fun result => ?_
  split
  · exact .ok ..
  · refine .ite (fun _ => .fail ..) fun first => absurd started ?_
    simpa [Started, and_assoc] using first

variable (reader)

/-- A look-behind. -/
theorem reflags_openAngle :
    Reflags flags (reader.openAngle start cursor)
      ((reader.withFlags flags).openAngle start cursor) := by
  unfold openAngle
  split
  · exact .fail ..
  · exact .ok ..
  · exact .ok ..
  · exact .fail ..
  · exact .fail ..

/-- A group with a name, or a reference to one. -/
theorem reflags_openLettered :
    Reflags flags (reader.openLettered start cursor)
      ((reader.withFlags flags).openLettered start cursor) := by
  unfold openLettered
  split
  · exact .fail ..
  · exact reflags_openNamed ..
  · exact reflags_readNamedReference ..
  · exact .fail ..
  · exact .fail ..

variable {reader}

/-- A parenthesis with a question mark. -/
theorem reflags_openExtension (started : reader.Started) :
    Reflags flags (reader.openExtension start cursor)
      ((reader.withFlags flags).openExtension start cursor) := by
  unfold openExtension
  dsimp only
  split
  · exact .fail ..
  · exact reflags_openLettered ..
  · exact .ok ..
  · exact .map fun _ => rfl
  · exact .ok ..
  · exact .ok ..
  · exact reflags_openAngle ..
  · exact reflags_openConditional ..
  · exact .ok ..
  · exact reflags_openFlags _ _ _ started _
  · exact .fail ..
  · split
    · exact reflags_openFlags _ _ _ started _
    · exact .fail ..

/-- A parenthesis. -/
theorem reflags_openGroup (started : reader.Started) :
    Reflags flags (reader.openGroup start cursor)
      ((reader.withFlags flags).openGroup start cursor) := by
  unfold openGroup
  exact .ite (fun _ => reflags_openExtension _ _ _ started) fun _ => .ok ..

/-! ## Tokens -/

/-- A character outside of sets and escapes. -/
theorem reflags_readChar (started : reader.Started) (c : Char) :
    Reflags flags (reader.readChar c position cursor)
      ((reader.withFlags flags).readChar c position cursor) := by
  unfold readChar
  refine .ite (fun _ => .ok ..) fun _ => ?_
  refine .ite (fun _ => .ok ..) fun _ => ?_
  refine .ite (fun _ => .bind fun result => .ok ..) fun _ => ?_
  refine .ite (fun _ => reflags_repeatLatest ..) fun _ => ?_
  refine .ite (fun _ => reflags_repeatLatest ..) fun _ => ?_
  refine .ite (fun _ => reflags_repeatLatest ..) fun _ => ?_
  refine .ite (fun _ => reflags_readBraces ..) fun _ => ?_
  refine .ite (fun _ => .ok ..) fun _ => ?_
  refine .ite (fun _ => reflags_openGroup _ _ _ started) fun _ => ?_
  refine .ite (fun _ => .ok ..) fun _ => ?_
  exact .ite (fun _ => .ok ..) fun _ => .ok ..

/-- A bar. -/
theorem reflags_readBar :
    Reflags flags (reader.readBar position cursor)
      ((reader.withFlags flags).readBar position cursor) := by
  unfold readBar
  dsimp only [withFlags]
  split
  · exact .error _
  · exact .ok ..

/-- A closing parenthesis. -/
theorem reflags_readClosing :
    Reflags flags (reader.readClosing position cursor)
      ((reader.withFlags flags).readClosing position cursor) := by
  unfold readClosing
  dsimp only [withFlags]
  split
  · exact .bind fun _ => .error _
  · exact .ok ..

/-- Once something has been read, a token is read in the same way under other flags. -/
theorem reflags_readToken (started : reader.Started) (token : Token) :
    Reflags flags (reader.readToken token position cursor)
      ((reader.withFlags flags).readToken token position cursor) := by
  unfold readToken
  split
  · exact reflags_readEscape ..
  · exact .error _
  · exact reflags_readBar ..
  · exact reflags_readClosing ..
  · exact reflags_readChar _ _ _ started _

/-- The end of the source. -/
theorem finish_withFlags (reader : Reader) :
    (reader.withFlags flags).finish = reader.finish.map (·.withFlags flags) := by
  have alphabets : (reader.withFlags flags).checkAlphabets = reader.checkAlphabets := rfl
  have outer : (reader.withFlags flags).outer = reader.outer := rfl
  unfold finish
  rw [alphabets, outer]
  by_cases outermost : reader.outer.isEmpty
  · rw [if_pos outermost, if_pos outermost]
    cases reader.checkAlphabets with
    | error refusal => rfl
    | ok _ => rfl
  · rw [if_neg outermost, if_neg outermost]
    rfl

/-- Once something has been read, the rest is read in the same way under other flags. -/
theorem readTokens_withFlags {first : Flags} (begun : reader.Begun first) (tokens : List Token)
    (skip position : Nat) : readTokens tokens skip position (reader.withFlags flags) =
      (readTokens tokens skip position reader).map (·.withFlags flags) := by
  fun_induction readTokens tokens skip position reader with
  | case1 _ _ reader => rw [readTokens, finish_withFlags]
  | case2 => rfl
  | case3 token tokens skip position reader sound ih =>
    rw [readTokens]
    · exact ih begun
    · exact sound
  | case4 token tokens position reader sound ih =>
    have same := reflags_readToken flags position ⟨tokens, position + token.width⟩ begun.started
      token
    have effect := @readToken_effect reader position token ⟨tokens, position + token.width⟩
    rw [readTokens]
    · rw [same]
      cases read : reader.readToken token position ⟨tokens, position + token.width⟩ with
      | error refusal => rfl
      | ok result => exact ih result.1 result.2 (begun.effect (effect.holds_of_ok result read))
    · exact sound

end Reader

/-- The same program under other flags of the whole expression. -/
def Program.withFlags (flags : Flags) (program : Program) : Program :=
  { program with flags := flags }

/-- What has been read under other flags is the same program under these flags. -/
theorem Program.ofReader_withFlags (source : Text) (reader : Reader) (flags : Flags) :
    ofReader source (reader.withFlags flags) =
      (ofReader source reader).map (·.withFlags flags) := by
  unfold ofReader
  dsimp only [Reader.withFlags]
  split
  · rfl
  · split
    · rfl
    · rfl

end RoutePattern.Regex
