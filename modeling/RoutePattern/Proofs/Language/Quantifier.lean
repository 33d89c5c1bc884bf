import RoutePattern.Proofs.Language.Atom
import RoutePattern.Proofs.Reading.Oversized

/-!
# How quantifiers are spelled

The quantifiers of a phrase are the three signs and counts between braces, each of them greedy or,
with a question mark behind it, lazy. Wherever they stand, they repeat the item in front of them.
-/
namespace RoutePattern.Regex

open Scan (facing Reaches)

/-- The appetite of a quantifier, and the sign for it. -/
def appetiteOf (lazy : Bool) : Appetite := if lazy then .lazy else .greedy

/-- The sign behind a lazy quantifier. -/
def lazySign (lazy : Bool) : Text := if lazy then ['?'] else []

/-- A quantifier gives up repetitions again. -/
theorem appetiteOf_ne (lazy : Bool) : appetiteOf lazy ≠ .possessive := by
  cases lazy <;> exact fun same => Appetite.noConfusion same

/-- The scanner passes over the sign for the appetite. -/
theorem passed_lazySign (lazy : Bool) : PassedOver (lazySign lazy) := by
  cases lazy with
  | false => exact .nil
  | true => exact PassedOver.char (by decide)

/-- An item is repeated with the appetite that the sign behind the quantifier names. -/
theorem Reader.repeatLatest_addItem {reader : Reader} {item : Item}
    (repeatable : item.isRepeatable = true) (lazy : Bool) {rest : Text}
    (unsigned : StartsUnsigned rest) (least : Nat) (most : Option Nat) (position place : Nat) :
    (reader.addItem item).repeatLatest least most position
        ⟨Token.ofText (lazySign lazy ++ rest), place⟩ =
      .ok (reader.push (.loop least most (appetiteOf lazy) (.sequence item.parts)),
        ⟨Token.ofText rest, place + (lazySign lazy).length⟩) := by
  have signed : (if (⟨Token.ofText (lazySign lazy ++ rest), place⟩ : Cursor).startsWith '?' then
        (Appetite.lazy, (⟨Token.ofText (lazySign lazy ++ rest), place⟩ : Cursor).next)
      else if (⟨Token.ofText (lazySign lazy ++ rest), place⟩ : Cursor).startsWith '+' then
        (.possessive, (⟨Token.ofText (lazySign lazy ++ rest), place⟩ : Cursor).next)
      else (.greedy, ⟨Token.ofText (lazySign lazy ++ rest), place⟩)) =
      (appetiteOf lazy, ⟨Token.ofText rest, place + (lazySign lazy).length⟩) := by
    cases lazy with
    | false =>
      simp [lazySign, appetiteOf, startsWith_facing unsigned.1, startsWith_facing unsigned.2]
    | true =>
      simp [lazySign, appetiteOf, Token.ofText_cons, Cursor.startsWith, Cursor.next, Token.width]
  unfold repeatLatest
  simp only [signed]
  rcases item with (_ | _ | _ | _ | _ | _ | _ | _ | _ | _ | _ | _ | _ | _ | _ | _) | _ <;>
    first | rfl | exact absurd repeatable Bool.false_ne_true

/-- The signs for a count of repetitions. -/
inductive RepetitionSign where
  | optional
  | star
  | plus
  deriving Repr, DecidableEq

namespace RepetitionSign

/-- How the sign is written. -/
def char : RepetitionSign → Char
  | optional => '?'
  | star => '*'
  | plus => '+'

/-- The least count of repetitions. -/
def least : RepetitionSign → Nat
  | optional | star => 0
  | plus => 1

/-- The greatest count of repetitions, if there is one. -/
def most : RepetitionSign → Option Nat
  | optional => some 1
  | star | plus => none

end RepetitionSign

/-- A sign as a quantifier. -/
def Quantifier.sign (sign : RepetitionSign) (lazy : Bool) : Quantifier where
  text := sign.char :: lazySign lazy
  least := sign.least
  most := sign.most
  appetite := appetiteOf lazy
  ordered := by cases sign <;> rfl
  loose := appetiteOf_ne lazy
  passed := by
    have first : PassedOver [sign.char] := PassedOver.char (by cases sign <;> decide)
    exact first.append (passed_lazySign lazy)
  reads := by
    intro reader item position rest repeatable _ unsigned
    have bare : '\\' ∉ sign.char :: lazySign lazy := by cases sign <;> cases lazy <;> decide
    have read : (reader.addItem item).readToken (.plain sign.char) position
        ⟨Token.ofText (lazySign lazy ++ rest), position + 1⟩ =
          .ok (reader.push (.loop sign.least sign.most (appetiteOf lazy) (.sequence item.parts)),
            ⟨Token.ofText rest, position + 1 + (lazySign lazy).length⟩) := by
      rw [← Reader.repeatLatest_addItem repeatable lazy unsigned _ _ position]
      cases sign <;> simp [Reader.readToken, Reader.readChar, RepetitionSign.char,
        RepetitionSign.least, RepetitionSign.most, Unicode.isAsciiBlank]
    have reach := Reader.reaches_taking bare read rfl
    rw [List.length_cons, ← Nat.add_assoc, Nat.add_right_comm]
    exact reach

/-- The digits of the counts between braces: one count, or two with a comma between them. -/
def countsText (least : Text) (most : Option Text) : Text :=
  least ++ (most.map fun digits => ',' :: digits).getD []

/-- A count of repetitions that can be read. -/
structure IsCount (text : Text) : Prop where
  digits : ∀ c ∈ text, c.isDigit = true
  small : ¬IsLargeCount text

/-- The least count between braces; no digits stand for none. -/
def countsLeast (least : Text) : Nat := Decimal.digitsToNat least

/-- The greatest count between braces, if there is one. -/
def countsMost (least : Text) (most : Option Text) : Option Nat :=
  if (most.getD least).isEmpty then none else some (Decimal.digitsToNat (most.getD least))

/-- The sign in front of a cursor. -/
theorem Cursor.startsWith_ofText {sign : Char} (bare : sign ≠ '\\') (text : Text) (position : Nat) :
    (⟨Token.ofText text, position⟩ : Cursor).startsWith sign = (text.head? == some sign) := by
  by_cases here : text.head? = some sign
  · obtain ⟨rest, rfl⟩ := List.head?_eq_some_iff.1 here
    rw [Cursor.startsWith, Token.ofText_cons bare, List.head?_cons, List.head?_cons]
    simp
  · rw [Reader.startsWith_facing here, beq_eq_false_iff_ne.2 here]

/-- The cursor after a sign. -/
theorem Cursor.next_ofText {sign : Char} (bare : sign ≠ '\\') (text : Text) (position : Nat) :
    (⟨Token.ofText (sign :: text), position⟩ : Cursor).next =
      ⟨Token.ofText text, position + 1⟩ := by
  rw [Cursor.next, Token.ofText_cons bare]
  rfl

namespace IsCount

variable {text : Text} (count : IsCount text)
include count

/-- Digits hold no backslash. -/
theorem bare : '\\' ∉ text := fun found => absurd (count.digits _ found) (by decide)

/-- Digits in front of a sign are read as a whole. -/
theorem takeWhile {sign : Char} (stops : sign.isDigit = false) (rest : Text) {limit : Nat}
    (enough : text.length ≤ limit) (position : Nat) :
    Cursor.takeWhile Char.isDigit limit ⟨Token.ofText (text ++ sign :: rest), position⟩ =
      (text, ⟨Token.ofText (sign :: rest), position + text.length⟩) := by
  refine Cursor.takeWhile_ofText (by decide) count.digits enough (fun _ c found => ?_) position
  rwa [← Option.some.inj found]

/-- Digits do not start with a sign. -/
theorem head?_ne (given : text ≠ []) {sign : Char} (other : sign.isDigit = false) (rest : Text) :
    (text ++ rest).head? ≠ some sign := by
  obtain ⟨c, digits, rfl⟩ := List.exists_cons_of_ne_nil given
  intro same
  have digit := count.digits c (List.mem_cons_self ..)
  rw [Option.some.inj same, other] at digit
  exact absurd digit Bool.false_ne_true

end IsCount

/-- One count between braces. -/
theorem Reader.braceCounts?_one {count : Text} (sound : IsCount count) (given : count ≠ [])
    (rest : Text) (position : Nat) : Reader.braceCounts?
      ⟨Token.ofText (count ++ '\x7d' :: rest), position⟩ =
        some (count, count, ⟨Token.ofText rest, position + count.length + 1⟩) := by
  have enough : count.length ≤ (Token.ofText (count ++ '\x7d' :: rest)).length := by
    rw [Reader.ofText_append sound.bare]
    simp
  simp only [braceCounts?, sound.takeWhile (show '\x7d'.isDigit = false by decide) rest enough]
  rw [Cursor.startsWith_ofText (by decide),
    beq_eq_false_iff_ne.2 (sound.head?_ne given (by decide) _)]
  simp [Cursor.startsWith_ofText, Cursor.next_ofText]

/-- Two counts between braces. -/
theorem Reader.braceCounts?_two {least most : Text} (first : IsCount least) (second : IsCount most)
    (rest : Text) (position : Nat) : Reader.braceCounts?
      ⟨Token.ofText (least ++ ',' :: (most ++ '\x7d' :: rest)), position⟩ =
        some (least, most, ⟨Token.ofText rest, position + least.length + 1 + most.length + 1⟩) := by
  have enough : least.length + most.length ≤
      (Token.ofText (least ++ ',' :: (most ++ '\x7d' :: rest))).length := by
    rw [Reader.ofText_append first.bare, Token.ofText_cons (by decide),
      Reader.ofText_append second.bare]
    simp
    omega
  have given : (least ++ ',' :: (most ++ '\x7d' :: rest)).head? ≠ some '\x7d' := by
    by_cases none : least = []
    · simp [none]
    · exact first.head?_ne none (by decide) _
  simp only [braceCounts?, first.takeWhile (show ','.isDigit = false by decide)
    (most ++ '\x7d' :: rest) (Nat.le_trans (Nat.le_add_right ..) enough)]
  rw [Cursor.startsWith_ofText (by decide), Cursor.startsWith_ofText (by decide),
    beq_eq_false_iff_ne.2 given, Cursor.next_ofText (by decide),
    second.takeWhile (show '\x7d'.isDigit = false by decide) rest
      (Nat.le_trans (Nat.le_add_left ..) enough)]
  simp [Cursor.startsWith_ofText, Cursor.next_ofText]

/-- The counts between braces are those that are written there. -/
theorem Reader.braceCounts?_countsText {least : Text} {most : Option Text} (first : IsCount least)
    (second : ∀ digits ∈ most, IsCount digits) (given : most = none → least ≠ []) (rest : Text)
    (position : Nat) : ∃ place, Reader.braceCounts?
      ⟨Token.ofText (countsText least most ++ '\x7d' :: rest), position⟩ =
        some (least, most.getD least, ⟨Token.ofText rest, place⟩) := by
  cases most with
  | none =>
    rw [countsText, Option.map_none, Option.getD_none, List.append_nil]
    exact ⟨_, Reader.braceCounts?_one first (given rfl) rest position⟩
  | some most =>
    rw [countsText, Option.map_some, Option.getD_some, List.append_assoc]
    exact ⟨_, Reader.braceCounts?_two first (second most rfl) rest position⟩

/-- Counts between braces repeat the item in front of them. -/
theorem Reader.readBraces_countsText {least : Text} {most : Option Text} (first : IsCount least)
    (second : ∀ digits ∈ most, IsCount digits) (given : most = none → least ≠ [])
    (ordered : (countsMost least most).all (countsLeast least ≤ ·) = true) (reader : Reader)
    (rest : Text) (position place : Nat) : ∃ after, reader.readBraces position
      ⟨Token.ofText (countsText least most ++ '\x7d' :: rest), place⟩ =
        reader.repeatLatest (countsLeast least) (countsMost least most) position
          ⟨Token.ofText rest, after⟩ := by
  obtain ⟨after, counts⟩ := Reader.braceCounts?_countsText first second given rest place
  have last : IsCount (most.getD least) := by
    cases most with
    | none => exact first
    | some most => exact second most rfl
  have sound : (countsMost least most).any (· < countsLeast least) = false := by
    cases bound : countsMost least most with
    | none => rfl
    | some bound' =>
      rw [bound] at ordered
      simpa using ordered
  have zero (none : least.isEmpty = true) : countsLeast least = 0 := by
    rw [List.isEmpty_iff.1 none]
    rfl
  have chosen {lower : Nat} {upper : Option Nat} (sound : upper.any (· < lower) = false) :
      (if upper.any (· < lower) = true then
        Cursor.fail ⟨Token.ofText rest, after⟩ .repeatBoundsReversed place
      else reader.repeatLatest lower upper position ⟨Token.ofText rest, after⟩) =
        reader.repeatLatest lower upper position ⟨Token.ofText rest, after⟩ := by
    rw [sound]
    rfl
  refine ⟨after, ?_⟩
  unfold readBraces
  simp only [counts, readCount_ok first.small, readCount_ok last.small]
  unfold countsMost at sound ⊢
  -- The reader tells a missing count from a count by whether it has digits.
  by_cases none : least.isEmpty = true
  · rw [zero none] at sound ⊢
    by_cases none' : (most.getD least).isEmpty = true
    · simp only [none, none', if_true]
      rfl
    · simp only [none, none', Bool.false_eq_true, if_true, if_false] at sound ⊢
      exact chosen sound
  · by_cases none' : (most.getD least).isEmpty = true
    · simp only [none, none', Bool.false_eq_true, if_true, if_false]
      rfl
    · simp only [none, none', Bool.false_eq_true, if_false] at sound ⊢
      exact chosen sound

/-- Counts between braces as a quantifier. -/
def Quantifier.braces (least : Text) (most : Option Text) (first : IsCount least)
    (second : ∀ digits ∈ most, IsCount digits) (given : most = none → least ≠ [])
    (ordered : (countsMost least most).all (countsLeast least ≤ ·) = true) (lazy : Bool) :
    Quantifier where
  text := '\x7b' :: (countsText least most ++ '\x7d' :: lazySign lazy)
  least := countsLeast least
  most := countsMost least most
  appetite := appetiteOf lazy
  ordered := ordered
  loose := appetiteOf_ne lazy
  passed := by
    have brace (sign : Char) (plain : sign ∉ ['\\', '[', '(', ')']) : PassedOver [sign] :=
      .char plain
    have counts (digits : Text) (count : IsCount digits) : PassedOver digits :=
      .ofClass (by decide) count.digits
    have inside : PassedOver (countsText least most) := by
      refine (counts least first).append ?_
      cases most with
      | none => exact .nil
      | some most => exact (brace ',' (by decide)).append (counts most (second most rfl))
    exact (brace '\x7b' (by decide)).append
      (inside.append ((brace '\x7d' (by decide)).append (passed_lazySign lazy)))
  reads := by
    intro reader item position rest repeatable _ unsigned
    have bare : '\\' ∉ '\x7b' :: (countsText least most ++ '\x7d' :: lazySign lazy) := by
      have plain := first.bare
      have plain' : '\\' ∉ (most.map fun digits => ',' :: digits).getD [] := by
        cases most with
        | none => exact List.not_mem_nil
        | some most => simpa using (second most rfl).bare
      cases lazy <;> simp [countsText, lazySign, plain, plain']
    obtain ⟨after, counts⟩ := Reader.readBraces_countsText first second given ordered
      (reader.addItem item) (lazySign lazy ++ rest) position (position + 1)
    have read : (reader.addItem item).readToken (.plain '\x7b') position
        ⟨Token.ofText ((countsText least most ++ '\x7d' :: lazySign lazy) ++ rest), position + 1⟩ =
          .ok (reader.push (.loop (countsLeast least) (countsMost least most) (appetiteOf lazy)
            (.sequence item.parts)), ⟨Token.ofText rest, after + (lazySign lazy).length⟩) := by
      rw [← Reader.repeatLatest_addItem repeatable lazy unsigned _ _ position, ← counts]
      simp [Reader.readToken, Reader.readChar, Unicode.isAsciiBlank]
    have reach := Reader.reaches_taking bare read rfl
    rw [List.length_cons, ← Nat.add_assoc, Nat.add_right_comm]
    exact reach

end RoutePattern.Regex
