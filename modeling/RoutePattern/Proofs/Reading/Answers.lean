import Mathlib.Data.List.Induction
import RoutePattern.Proofs.Reading.Oversized

/-!
# What can be wrong with escapes, sets and flags

A reader answers if it gives a value of a kind or finds a fault (`Answers`). Names, escapes, sets and
flags are answered, unless they hold the code point of an escape that is too large: there is no other
way to refuse them.
-/
namespace RoutePattern.Regex

/-- A value of a kind, or a fault. -/
inductive Answers {α : Type} (holds : α → Prop) : Except Refusal α → Prop
  | ok {value : α} (found : holds value) : Answers holds (.ok value)
  | fault (fault : Fault) (position : Option Nat) : Answers holds (.error (.fault fault position))

/-- Some value, or a fault. -/
abbrev Responds {α : Type} (result : Except Refusal α) : Prop := Answers (fun _ => True) result

namespace Answers

variable {α β : Type} {holds : α → Prop} {result : Except Refusal α}

/-- A fault at a cursor. -/
theorem fail (cursor : Cursor) (fault : Fault) (position : Nat) :
    Answers holds (cursor.fail fault position) := by
  unfold Cursor.fail Cursor.refuse
  split
  · exact .fault ..
  · exact .fault ..

/-- What is answered is no number that is too large. -/
theorem not_overflows (answers : Answers holds result) : ¬Overflows result := by
  rintro ⟨refusal, same, other⟩
  cases answers with
  | ok found => exact absurd same (by simp)
  | fault fault position => exact other ⟨fault, position, (Except.error.inj same).symm⟩

/-- Less may be asked for. -/
theorem responds (answers : Answers holds result) : Responds result := by
  cases answers with
  | ok found => exact .ok trivial
  | fault fault position => exact .fault fault position

/-- A result that hangs on a condition. -/
theorem ite {condition : Prop} [Decidable condition] {other : Except Refusal α}
    (yes : condition → Answers holds result) (no : ¬condition → Answers holds other) :
    Answers holds (if condition then result else other) := by
  by_cases given : condition
  · rw [if_pos given]
    exact yes given
  · rw [if_neg given]
    exact no given

/-- What comes of a first result. -/
theorem bind {first : Except Refusal β} {next : β → Except Refusal α} (answers : Responds first)
    (later : ∀ value, first = .ok value → Answers holds (next value)) :
    Answers holds (first >>= next) := by
  cases answers with
  | ok found => exact later _ rfl
  | fault fault position => exact .fault fault position

/-- A change of a result. -/
theorem map {first : Except Refusal β} {change : β → α} (answers : Responds first)
    (later : ∀ value, first = .ok value → holds (change value)) :
    Answers holds (first.map change) :=
  answers.bind fun value same => .ok (later value same)

end Answers

/-! ## Escapes -/

/-- A name. -/
theorem responds_readName (terminator : Char) (what : String) (taken : Text) (tokens : List Token)
    (position : Nat) : Responds (Cursor.readName terminator what taken tokens position) := by
  fun_induction Cursor.readName terminator what taken tokens position with
  | case1 => exact .fail ..
  | case2 => exact .fail ..
  | case3 => exact .fail ..
  | case4 => exact .fail ..
  | case5 => exact .ok trivial
  | case6 _ _ _ _ _ _ _ ih => exact ih

/-- A hexadecimal digit stands for less than sixteen. -/
theorem hexValue?_lt (c : Char) : (Text.hexValue? c).getD 0 < 16 := by
  unfold Text.hexValue?
  simp only
  split
  · simp only [Option.getD_some]
    omega
  · split
    · simp only [Option.getD_some]
      omega
    · split
      · simp only [Option.getD_some]
        omega
      · decide

/-- Hexadecimal digits stand for no more than their count allows. -/
theorem hexNumber_lt (digits : Text) : Text.hexNumber digits < 16 ^ digits.length := by
  induction digits using List.reverseRecOn with
  | nil => decide
  | append_singleton digits c ih =>
    have last := hexValue?_lt c
    rw [Text.hexNumber, List.foldl_concat, ← Text.hexNumber, List.length_append,
      List.length_singleton, Nat.pow_succ]
    omega

/-- An escape of so few hexadecimal digits that their number is small, or of a number that is not
too large. -/
theorem responds_readHexEscape (letter : Char) (count start : Nat) (cursor : Cursor)
    (small : count ≤ 4 ∨ count = 8 ∧ ¬MeetsCode (.escaped 'U') cursor) :
    Responds (readHexEscape letter count start cursor) := by
  have power : Nat.pow 2 31 = 2147483648 := rfl
  have most := cursor.length_takeWhile Text.isHex count
  unfold readHexEscape
  rcases taken : cursor.takeWhile Text.isHex count with ⟨digits, after⟩
  have most : digits.length ≤ count := by simpa [taken] using most
  simp only
  refine .ite (fun _ => .fail ..) fun enough => .ite (fun _ => .ok trivial) fun _ => ?_
  refine .ite (fun _ => .fail ..) fun large => absurd large (not_not.2 ?_)
  rcases small with few | ⟨rfl, other⟩
  · have bound := hexNumber_lt digits
    have power : 16 ^ digits.length ≤ 16 ^ 4 := Nat.pow_le_pow_right (by decide) (most.trans few)
    omega
  · by_contra big
    exact other ⟨rfl, digits, after, taken, by omega, by omega⟩

/-- A character by its name. -/
theorem responds_readNamedEscape (start : Nat) (cursor : Cursor) :
    Responds (readNamedEscape start cursor) := by
  unfold readNamedEscape
  refine .ite (fun _ => (responds_readName ..).bind fun result _ => ?_) fun _ => .fail ..
  simp only
  split
  · exact .ok trivial
  · exact .fail ..

variable {letter : Char} {cursor : Cursor}

/-- An escape that names a code point, which is not too large. -/
theorem responds_readCodeEscape? (small : ¬MeetsCode (.escaped letter) cursor) (start : Nat)
    {result : Except Refusal (Nat × Cursor)}
    (found : readCodeEscape? letter start cursor = some result) : Responds result := by
  unfold readCodeEscape? at found
  split at found
  · rw [← Option.some.inj found]
    exact responds_readHexEscape _ _ _ _ (.inl (by decide))
  split at found
  · rw [← Option.some.inj found]
    exact responds_readHexEscape _ _ _ _ (.inl (by decide))
  split at found
  · next upper =>
    rw [beq_iff_eq.1 upper] at small
    rw [← Option.some.inj found]
    exact responds_readHexEscape _ _ _ _ (.inr ⟨rfl, small⟩)
  split at found
  · rw [← Option.some.inj found]
    exact responds_readNamedEscape ..
  · exact absurd found (by simp)

/-- An escape without a meaning of its own. -/
theorem responds_readPlainEscape (letter : Char) (start : Nat) (cursor : Cursor) :
    Responds (readPlainEscape letter start cursor) := by
  unfold readPlainEscape
  exact .ite (fun _ => .fail ..) fun _ => .ok trivial

/-- An escape inside a set. -/
theorem responds_readSetEscape (small : ¬MeetsCode (.escaped letter) cursor) (start : Nat) :
    Responds (readSetEscape letter start cursor) := by
  unfold readSetEscape
  refine .ite (fun _ => .ok trivial) fun _ => ?_
  split
  · exact .ok trivial
  · exact .ok trivial
  · split
    · next found => exact (responds_readCodeEscape? small start found).map fun _ _ => trivial
    · refine .ite (fun _ => ?_) fun _ =>
        (responds_readPlainEscape ..).map fun _ _ => trivial
      exact .ite (fun _ => .fail ..) fun _ => .ok trivial

/-! ## Sets -/

/-- An item of a set. -/
theorem responds_readSetItem {token : Token} (small : ¬MeetsCode token cursor) (position : Nat) :
    Responds (readSetItem token position cursor) := by
  unfold readSetItem
  split
  · exact responds_readSetEscape small position
  · exact .ok trivial
  · exact .fail ..

/-- A range. -/
theorem responds_makeRange (shownLow shownHigh : Text) (low high : SetItem) (after : Cursor) :
    Responds (makeRange shownLow shownHigh low high after) := by
  unfold makeRange
  simp only
  split
  · exact .ite (fun _ => .fail ..) fun _ => .ok trivial
  · exact .fail ..

/-- The items of a set, unless they lead to a number that is too large. -/
theorem responds_readSetItems (start : Nat) {tokens : List Token} {skip position : Nat}
    {items : List SetItem} {pending : Pending}
    (small : ¬SetMeets tokens skip position items pending) :
    Responds (readSetItems start tokens skip position items pending) := by
  induction tokens generalizing skip position items pending with
  | nil =>
    rw [readSetItems]
    exact .fail ..
  | cons token tokens ih =>
    by_cases sound : token = .dangling
    · subst sound
      rw [readSetItems]
      exact .fail ..
    cases skip with
    | succ skip =>
      rw [readSetItems_skip sound]
      exact ih fun later => small (.passed later)
    | zero =>
      -- What the token means depends on what is pending in front of it.
      have item := responds_readSetItem (fun large => small (.here large)) position
      cases pending with
      | nothing =>
        rw [readSetItems_nothing sound]
        refine .ite (fun _ => .ok trivial) fun opened => item.bind fun result read => ?_
        exact ih fun later => small (.first (by simpa using opened) read later)
      | item shown first =>
        by_cases hyphen : token = .plain '-'
        · subst hyphen
          exact ih fun later => small (.hyphen later)
        · rw [readSetItems_item sound _ _ _ _ _ hyphen]
          refine .ite (fun _ => .ok trivial) fun opened => item.bind fun result read => ?_
          exact ih fun later => small (.another (by simpa using opened) hyphen read later)
      | rangeFrom shown low =>
        by_cases bracket : token = .plain ']'
        · subst bracket
          exact .ok trivial
        · rw [readSetItems_rangeFrom sound _ _ _ _ _ bracket]
          refine item.bind fun result read => ?_
          refine (responds_makeRange ..).bind fun range made => ?_
          exact ih fun later => small (.range bracket read made later)

/-- A set. -/
theorem responds_readSet (small : ¬SetMeets cursor.intoSet.tokens 0 cursor.intoSet.position []
    .nothing) (start : Nat) : Responds (readSet start cursor) := by
  refine (responds_readSetItems start small).bind fun result _ => ?_
  simp only
  split
  · exact .ok trivial
  · exact .ok trivial
  · exact .ok trivial

/-! ## Flags -/

/-- What stands where a flag was due. -/
theorem responds_refuseFlag {α : Type} (what : String) (token : Token) (position : Nat)
    (after : Cursor) : Responds (refuseFlag what token position after : Except Refusal α) := by
  unfold refuseFlag
  exact .ite (fun _ => .fail ..) fun _ => .fail ..

/-- Flags that are turned on. -/
theorem responds_readFlagsOn (flag : FlagName) (on : List FlagName) (tokens : List Token)
    (position : Nat) : Responds (readFlagsOn flag on tokens position) := by
  induction tokens generalizing flag on position with
  | nil =>
    unfold readFlagsOn
    cases flagFault? flag on with
    | some fault => exact .fail ..
    | none => exact .fail ..
  | cons token tokens ih =>
    unfold readFlagsOn
    cases flagFault? flag on with
    | some fault => exact .fail ..
    | none =>
      simp only
      split
      · exact .fail ..
      · exact ih ..
      · exact .ok trivial
      · exact .ok trivial
      · exact .ok trivial
      · exact responds_refuseFlag ..

/-- Flags that are turned off. -/
theorem responds_readFlagsOff (flag : FlagName) (off : List FlagName) (tokens : List Token)
    (position : Nat) : Responds (readFlagsOff flag off tokens position) := by
  induction tokens generalizing flag off position with
  | nil =>
    unfold readFlagsOff
    cases flag.isAlphabet with
    | true => exact .fail ..
    | false => exact .fail ..
  | cons token tokens ih =>
    unfold readFlagsOff
    cases flag.isAlphabet with
    | true => exact .fail ..
    | false =>
      simp only
      split
      · exact .fail ..
      · exact ih ..
      · exact .ok trivial
      · exact responds_refuseFlag ..

/-- The flags after a hyphen. -/
theorem responds_readOff (cursor : Cursor) : Responds (readOff cursor) := by
  unfold readOff
  split
  · exact .fail ..
  · simp only
    split
    · exact .fail ..
    · exact responds_readFlagsOff ..
    · exact responds_refuseFlag ..

/-- A change of flags. -/
theorem responds_checkChange (on off : List FlagName) (after : Cursor) :
    Responds (checkChange on off after) := by
  unfold checkChange
  exact .ite (fun _ => .fail ..) fun _ => .ite (fun _ => .fail ..) fun _ => .ok trivial

/-- Flags after a question mark. -/
theorem responds_readFlags (first : Option FlagName) (cursor : Cursor) :
    Responds (readFlags first cursor) := by
  unfold readFlags
  cases first with
  | none => exact (responds_readOff cursor).bind fun result _ => responds_checkChange ..
  | some flag =>
    refine (responds_readFlagsOn ..).bind fun result _ => ?_
    refine .ite (fun _ => .ok trivial) fun _ => .ite (fun _ => .fail ..) fun _ => ?_
    refine .ite (fun _ => ?_) fun _ => responds_checkChange ..
    exact (responds_readOff _).bind fun result _ => responds_checkChange ..

end RoutePattern.Regex
