import RoutePattern.Proofs.Reading.Answers
import RoutePattern.Proofs.Reading.Ground

/-!
# What can be wrong with a source

Whatever stands in a source, reading it ends well or finds a fault, as long as no number is too large
to be read (`Scan.responds_readTokens`). Flags that contradict each other would be a third way to go
wrong, but only where nothing has been read yet: after that no flags of the whole expression are
accepted, and so no alphabet is named (`Reader.Keeps`).
-/
namespace RoutePattern.Regex

namespace Reader

/-- A reader that has taken down no other alphabets, or a fault. -/
abbrev Keeps (reader : Reader) (result : Except Refusal (Reader × Cursor)) : Prop :=
  Answers (·.1.alphabets = reader.alphabets) result

/-- Something has been read already. -/
def Started (reader : Reader) : Prop :=
  reader.outer ≠ [] ∨ reader.frame.branches ≠ [] ∨ reader.frame.items ≠ []

/-- Once something has been read outside of all parentheses, something has been read. -/
theorem Begun.started {reader : Reader} {flags : Flags} (begun : reader.Begun flags) :
    reader.Started := by
  by_cases outermost : reader.outer = []
  · have given := begun.given
    rw [ground, outermost, List.getLastD_nil] at given
    exact .inr given.symm
  · exact .inl outermost

variable (reader : Reader)

/-! ## Escapes -/

/-- A reference from inside a look-behind. -/
theorem responds_checkBehind (index : Nat) (cursor : Cursor) :
    Responds (reader.checkBehind index cursor) := by
  unfold checkBehind
  split
  · exact .ok trivial
  · exact .ite (fun _ => .fail ..) fun _ => .ite (fun _ => .fail ..) fun _ => .ok trivial

/-- A reference to a group. -/
theorem keeps_readReference (index start width : Nat) (after : Cursor) :
    reader.Keeps (reader.readReference index start width after) := by
  unfold readReference
  refine .ite (fun _ => .fail ..) fun _ => .ite (fun _ => .fail ..) fun _ => ?_
  exact (reader.responds_checkBehind index after).bind fun _ _ => .ok rfl

/-- A numbered escape. -/
theorem keeps_readNumberEscape (digit : Char) (start : Nat) (cursor : Cursor) :
    reader.Keeps (reader.readNumberEscape digit start cursor) := by
  unfold readNumberEscape
  refine .ite (fun _ => ?_) fun _ => keeps_readReference ..
  exact .ite (fun _ => .fail ..) fun _ => .ok rfl

/-- An escape for a code point that is not too large. -/
theorem keeps_readEscape {letter : Char} {cursor : Cursor}
    (small : ¬MeetsCode (.escaped letter) cursor) (start : Nat) :
    reader.Keeps (reader.readEscape letter start cursor) := by
  unfold readEscape
  split
  · exact .ok rfl
  · exact .ok rfl
  · exact .ok rfl
  · split
    · next found => exact (responds_readCodeEscape? small start found).map fun _ _ => rfl
    · refine .ite (fun _ => .ok rfl) fun _ => .ite (fun _ => keeps_readNumberEscape ..) fun _ => ?_
      exact (responds_readPlainEscape ..).map fun _ _ => rfl

/-! ## Repetitions -/

/-- A repetition of the latest item. -/
theorem keeps_repeatLatest (least : Nat) (most : Option Nat) (position : Nat) (cursor : Cursor) :
    reader.Keeps (reader.repeatLatest least most position cursor) := by
  unfold repeatLatest
  split
  · exact .fail ..
  · exact .fail ..
  · exact .fail ..
  · exact .ok rfl

/-- Braces whose counts are not too large. -/
theorem keeps_readBraces {cursor : Cursor} (small : ¬MeetsCount (.plain '\x7b') cursor)
    (position : Nat) : reader.Keeps (reader.readBraces position cursor) := by
  unfold readBraces
  split
  · exact .ok rfl
  · next least most after found =>
    have ordinary : ¬(IsLargeCount least ∨ IsLargeCount most) := fun large =>
      small ⟨rfl, least, most, after, found, large⟩
    obtain ⟨first, second⟩ := not_or.1 ordinary
    have last (low : Nat) (high : Option Nat) : reader.Keeps
        (if high.any (· < low) then after.fail .repeatBoundsReversed cursor.position
          else reader.repeatLatest low high position after) :=
      .ite (fun _ => .fail ..) fun _ => keeps_repeatLatest ..
    simp only [readCount_ok first, readCount_ok second]
    split
    · split
      · exact last 0 none
      · exact last 0 (some (Decimal.digitsToNat most))
    · split
      · exact last (Decimal.digitsToNat least) none
      · exact last (Decimal.digitsToNat least) (some (Decimal.digitsToNat most))

/-! ## Opening groups -/

/-- A group with a name. -/
theorem keeps_openNamed (start : Nat) (cursor : Cursor) :
    reader.Keeps (reader.openNamed start cursor) := by
  unfold openNamed
  refine (responds_readName ..).bind fun result _ => ?_
  refine .ite (fun _ => .fail ..) fun _ => ?_
  split
  · exact .fail ..
  · exact .ok rfl

/-- A reference by name. -/
theorem keeps_readNamedReference (cursor : Cursor) :
    reader.Keeps (reader.readNamedReference cursor) := by
  unfold readNamedReference
  refine (responds_readName ..).bind fun result _ => ?_
  refine .ite (fun _ => .fail ..) fun _ => ?_
  split
  · exact .fail ..
  · refine .ite (fun _ => .fail ..) fun _ => ?_
    exact (responds_checkBehind ..).bind fun _ _ => .ok rfl

/-- The group of a condition. -/
theorem answers_conditionGroup (name : Text) (position : Nat) (after : Cursor) :
    Answers (·.2.alphabets = reader.alphabets) (reader.conditionGroup name position after) := by
  unfold conditionGroup
  refine .ite (fun _ => ?_) fun _ => ?_
  · split
    · exact .fail ..
    · exact .ok rfl
  · split
    · refine .ite (fun _ => .fail ..) fun _ => .ite (fun _ => .fail ..) fun _ => ?_
      exact .ite (fun _ => .ok rfl) fun _ => .ok rfl
    · exact .fail ..

/-- A condition. -/
theorem keeps_openConditional (start : Nat) (cursor : Cursor) :
    reader.Keeps (reader.openConditional start cursor) := by
  unfold openConditional
  refine (responds_readName ..).bind fun name _ => ?_
  have answers := reader.answers_conditionGroup name.1 cursor.position name.2
  refine answers.responds.bind fun result found => ?_
  rw [found] at answers
  cases answers with
  | ok same => exact (responds_checkBehind ..).bind fun _ _ => .ok same

/-- A comment. -/
theorem responds_skipComment (start : Nat) (tokens : List Token) (position : Nat) :
    Responds (skipComment start tokens position) := by
  fun_induction skipComment start tokens position with
  | case1 => exact .fail ..
  | case2 => exact .fail ..
  | case3 => exact .ok trivial
  | case4 _ _ _ _ _ ih => exact ih

variable {reader}

/-- Flags, where no flags of the whole expression are accepted any more. -/
theorem keeps_openFlags (started : reader.Started) (first : Option FlagName) (start : Nat)
    (cursor : Cursor) : reader.Keeps (reader.openFlags first start cursor) := by
  unfold openFlags
  refine (responds_readFlags first cursor).bind fun result _ => ?_
  simp only
  split
  · exact .ok rfl
  · refine .ite (fun _ => .fail ..) fun first => absurd started ?_
    simpa [Started, and_assoc] using first

/-- A look-behind. -/
theorem keeps_openAngle (start : Nat) (cursor : Cursor) :
    reader.Keeps (reader.openAngle start cursor) := by
  unfold openAngle
  split
  · exact .fail ..
  · exact .ok rfl
  · exact .ok rfl
  · exact .fail ..
  · exact .fail ..

/-- A group with a name, or a reference to one. -/
theorem keeps_openLettered (start : Nat) (cursor : Cursor) :
    reader.Keeps (reader.openLettered start cursor) := by
  unfold openLettered
  split
  · exact .fail ..
  · exact keeps_openNamed ..
  · exact keeps_readNamedReference ..
  · exact .fail ..
  · exact .fail ..

/-- A parenthesis with a question mark. -/
theorem keeps_openExtension (started : reader.Started) (start : Nat) (cursor : Cursor) :
    reader.Keeps (reader.openExtension start cursor) := by
  unfold openExtension
  simp only
  split
  · exact .fail ..
  · exact keeps_openLettered ..
  · exact .ok rfl
  · exact (responds_skipComment ..).map fun _ _ => rfl
  · exact .ok rfl
  · exact .ok rfl
  · exact keeps_openAngle ..
  · exact keeps_openConditional ..
  · exact .ok rfl
  · exact keeps_openFlags started ..
  · exact .fail ..
  · split
    · exact keeps_openFlags started ..
    · exact .fail ..

/-- A parenthesis. -/
theorem keeps_openGroup (started : reader.Started) (start : Nat) (cursor : Cursor) :
    reader.Keeps (reader.openGroup start cursor) := by
  unfold openGroup
  exact .ite (fun _ => keeps_openExtension started ..) fun _ => .ok rfl

/-! ## Tokens -/

/-- A character outside of sets and escapes. -/
theorem keeps_readChar (started : reader.Started) {c : Char} {cursor : Cursor}
    (small : ¬Meets (.plain c) cursor) (position : Nat) :
    reader.Keeps (reader.readChar c position cursor) := by
  unfold readChar
  refine .ite (fun _ => .ok rfl) fun _ => .ite (fun _ => .ok rfl) fun _ => ?_
  refine .ite (fun bracket => ?_) fun _ => ?_
  · rw [beq_iff_eq.1 bracket] at small
    exact (responds_readSet (fun large => small (.set rfl large)) position).bind
      fun result _ => .ok rfl
  refine .ite (fun _ => keeps_repeatLatest ..) fun _ => ?_
  refine .ite (fun _ => keeps_repeatLatest ..) fun _ => ?_
  refine .ite (fun _ => keeps_repeatLatest ..) fun _ => ?_
  refine .ite (fun brace => ?_) fun _ => ?_
  · rw [beq_iff_eq.1 brace] at small
    exact keeps_readBraces reader (fun large => small (.count large)) position
  refine .ite (fun _ => .ok rfl) fun _ => ?_
  refine .ite (fun _ => keeps_openGroup started ..) fun _ => ?_
  exact .ite (fun _ => .ok rfl) fun _ => .ite (fun _ => .ok rfl) fun _ => .ok rfl

/-- No alphabet has been named, so that none contradicts another one. -/
theorem checkAlphabets_ok (none : reader.alphabets = []) : reader.checkAlphabets = .ok () := by
  rw [checkAlphabets, none]
  rfl

/-- A token that holds no number that is too large. -/
theorem keeps_readToken (started : reader.Started) (none : reader.alphabets = []) {token : Token}
    {cursor : Cursor} (small : ¬Meets token cursor) (position : Nat) :
    reader.Keeps (reader.readToken token position cursor) := by
  unfold readToken
  split
  · exact keeps_readEscape reader (fun large => small (.code large)) position
  · exact .fault ..
  · unfold readBar
    split
    · exact .fault ..
    · exact .ok rfl
  · unfold readClosing
    split
    · rw [checkAlphabets_ok none]
      exact .fault ..
    · exact .ok rfl
  · exact keeps_readChar started small position

/-- The end of a source. -/
theorem responds_finish (none : reader.alphabets = []) : Responds reader.finish := by
  unfold finish
  refine .ite (fun _ => ?_) fun _ => .fault ..
  rw [checkAlphabets_ok none]
  exact .ok trivial

end Reader

/-! ## Scans -/

namespace Scan

/-- Reading goes to the end or finds a fault, unless it gets to a number that is too large. -/
theorem responds_readTokens {scan : Scan} {flags : Flags} (begun : scan.reader.Begun flags)
    (none : scan.reader.alphabets = []) (small : ¬∃ two, scan.Reaches two ∧ two.Meets) :
    Responds (Reader.readTokens scan.tokens scan.skip scan.position scan.reader) := by
  obtain ⟨reader, tokens, skip, position⟩ := scan
  induction tokens generalizing reader skip position with
  | nil => exact Reader.responds_finish none
  | cons token tokens ih =>
    by_cases sound : token = .dangling
    · subst sound
      rw [Reader.readTokens]
      exact .fault ..
    cases skip with
    | succ skip =>
      rw [Reader.readTokens]
      · refine ih reader skip _ begun none ?_
        rintro ⟨two, reaches, meets⟩
        exact small ⟨two, .head (next?_passed sound) reaches, meets⟩
      · exact sound
    | zero =>
      have here : ¬Regex.Meets token ⟨tokens, position + token.width⟩ := fun meets =>
        small ⟨_, .refl, rfl, token, tokens, rfl, meets⟩
      -- A token answers and chooses no alphabet, so none is in conflict with the flags at the end.
      have answers := Reader.keeps_readToken begun.started none here position
      rw [Reader.readTokens]
      · refine answers.responds.bind fun result read => ?_
        rw [read] at answers
        have effect := (Reader.readToken_effect ..).holds_of_ok result read
        cases answers with
        | ok kept =>
          refine ih result.1 _ _ (begun.effect effect) (kept.trans none) ?_
          rintro ⟨two, reaches, meets⟩
          exact small ⟨two, .head (next?_taking sound read) reaches, meets⟩
      · exact sound

end Scan

end RoutePattern.Regex
