import Mathlib.Algebra.GroupWithZero.Nat
import RoutePattern.Datum.Printer
import RoutePattern.Proofs.Delimiter

/-!
# Numerals of natural numbers

A natural number that is not too long is written in decimal digits and read back (`readInt_ofNat`).
A text with a question mark is no numeral (`readInt_ne_ok`).
-/
namespace RoutePattern.Decimal

open Text

/-- What holds for the ten digits holds in the numeral of a number. -/
theorem forall_mem_ofNat (holds : Char → Prop)
    (all : ∀ code < 128, (Char.ofNat code).isDigit = true → holds (Char.ofNat code)) (n : Nat) :
    ∀ c ∈ ofNat n, holds c := by
  intro c found
  have digit : c.isDigit = true := Nat.isDigit_of_mem_toDigits (by decide) (by decide) found
  have ascii : c.toNat < 128 := by
    apply toNat_lt_of_isAlphanum
    rw [Char.isAlphanum, digit, Bool.or_true]
  exact ascii_forall (fun c => c.isDigit = true → holds c) all ascii digit

/-- A numeral has a digit. -/
theorem ofNat_ne_nil (n : Nat) : ofNat n ≠ [] := Nat.toDigits_ne_nil

/-- A number that is not too great has no more digits than are read or written. -/
theorem length_ofNat_le {n : Nat} (short : n < 10 ^ digitLimit) : (ofNat n).length ≤ digitLimit :=
  (Nat.length_toDigits_le_iff (by decide) (by decide)).2 short

/-- The digits of a number stand for the number. -/
theorem digitsToNat_ofNat (n : Nat) : digitsToNat (ofNat n) = n := by
  have fold : digitsToNat (ofNat n) = Nat.ofDigitChars 10 (ofNat n) 0 := by
    rw [digitsToNat, Nat.ofDigitChars_eq_foldl]
    congr 1
    funext number c
    rw [Nat.mul_comm]
    rfl
  rw [fold]
  exact Nat.ofDigitChars_ten_toDigits

/-- A row of digits is in ASCII already. -/
theorem normalize_digits {digits : Text} (all : ∀ c ∈ digits, toAscii? c = some c) :
    normalize digits = digits := by
  induction digits with
  | nil => rfl
  | cons c digits ih =>
    have first := all c (List.mem_cons_self ..)
    have later := ih fun d found => all d (List.mem_cons_of_mem _ found)
    simp only [normalize, first, later]

/-- A row of digits has no low line. -/
theorem lowLinesSeparate_digits {digits : Text} (all : ∀ c ∈ digits, c ≠ '_') (afterDigit : Bool) :
    lowLinesSeparate afterDigit digits = true := by
  induction digits generalizing afterDigit with
  | nil => rfl
  | cons c digits ih =>
    have first := all c (List.mem_cons_self ..)
    have later := ih (fun d found => all d (List.mem_cons_of_mem _ found)) true
    rw [lowLinesSeparate]
    · exact later
    · rintro rfl
      exact fun _ => first rfl
    · exact first

/-- A digit of ASCII is no blank, no sign and no low line. -/
theorem plain_of_isDigit {c : Char} (digit : c.isDigit = true) :
    toAscii? c = some c ∧ isSpace c = false ∧ c ≠ '-' ∧ c ≠ '+' ∧ c ≠ '_' := by
  have ascii : c.toNat < 128 := by
    apply toNat_lt_of_isAlphanum
    rw [Char.isAlphanum, digit, Bool.or_true]
  exact ascii_forall (fun c => c.isDigit = true → toAscii? c = some c ∧ isSpace c = false ∧
    c ≠ '-' ∧ c ≠ '+' ∧ c ≠ '_') (by decide) ascii digit

/-- A text that begins with a digit has no sign. -/
theorem readSign_of_isDigit {c : Char} (digit : c.isDigit = true) (rest : Text) :
    readSign (c :: rest) = (false, c :: rest) := by
  obtain ⟨-, -, minus, plus, -⟩ := plain_of_isDigit digit
  rw [readSign]
  · rintro rest same
    exact minus (List.cons.inj same).1
  · rintro rest same
    exact plus (List.cons.inj same).1

/-- How a numeral is read that begins with a row of digits. -/
theorem readInt_of_normalize {text digits rest : Text} (numeral : normalize text = digits ++ rest)
    (given : digits ≠ []) (all : ∀ c ∈ digits, c.isDigit = true)
    (stop : ∀ c ∈ rest.head?, (c.isDigit || c == '_') = false) :
    readInt text =
      if digitLimit < digits.length then .error (.tooManyDigits digits.length)
      else if rest.any fun c => !isSpace c then .error .malformed
      else .ok (digitsToNat digits : Int) := by
  obtain ⟨first, others, written⟩ := List.exists_cons_of_ne_nil given
  have begins : first.isDigit = true := all first (written ▸ List.mem_cons_self ..)
  have full : (digits ++ rest).dropWhile isSpace = digits ++ rest := by
    rw [written, List.cons_append, List.dropWhile_cons_of_neg]
    rw [(plain_of_isDigit begins).2.1]
    exact Bool.false_ne_true
  have unsigned : readSign (digits ++ rest) = (false, digits ++ rest) := by
    rw [written, List.cons_append]
    exact readSign_of_isDigit begins _
  have run : (digits ++ rest).span (fun c => c.isDigit || c == '_') = (digits, rest) :=
    span_append (fun c found => by rw [all c found, Bool.true_or]) stop
  have solid (c : Char) (found : c ∈ digits) : c ≠ '_' :=
    (plain_of_isDigit (all c found)).2.2.2.2
  have filtered : digits.filter (· != '_') = digits :=
    List.filter_eq_self.2 fun c found => bne_iff_ne.2 (solid c found)
  have separate := lowLinesSeparate_digits solid false
  have some : digits.isEmpty = false := List.isEmpty_eq_false_iff.2 given
  simp only [readInt, numeral, full, unsigned, run, filtered, separate, some, Bool.not_true,
    Bool.or_false, Bool.false_eq_true, if_false]

/-- A number that is not too great is read back from its numeral. -/
theorem readInt_ofNat {n : Nat} (short : n < 10 ^ digitLimit) :
    readInt (ofNat n) = .ok (n : Int) := by
  have size := length_ofNat_le short
  have ascii := normalize_digits (forall_mem_ofNat (fun c => toAscii? c = some c) (by decide) n)
  have digits := forall_mem_ofNat (fun c => c.isDigit = true) (by decide) n
  have numeral : normalize (ofNat n) = ofNat n ++ [] := by rw [ascii, List.append_nil]
  rw [readInt_of_normalize numeral (ofNat_ne_nil n) digits (by simp), if_neg (by omega),
    if_neg (by simp), digitsToNat_ofNat]

/-- A question mark stays one where a numeral is turned into ASCII. -/
theorem mem_normalize {text : Text} (mark : '?' ∈ text) : '?' ∈ normalize text := by
  induction text with
  | nil => exact absurd mark List.not_mem_nil
  | cons c text ih =>
    rw [normalize]
    split
    · next ascii found =>
      rcases List.mem_cons.1 mark with rfl | later
      · have same : toAscii? '?' = some '?' := by decide
        rw [same] at found
        obtain rfl := Option.some.inj found
        exact List.mem_cons_self ..
      · exact List.mem_cons_of_mem _ (ih later)
    · exact List.mem_cons_self ..

/-- A character that the first characters of a text are not stays where these are dropped. -/
theorem mem_dropWhile (accepts : Char → Bool) {text : Text} {c : Char} (found : c ∈ text)
    (other : accepts c = false) : c ∈ text.dropWhile accepts := by
  rw [← List.takeWhile_append_dropWhile (p := accepts) (l := text)] at found
  rcases List.mem_append.1 found with taken | left
  · exact absurd (List.mem_takeWhile_imp taken) (by simp [other])
  · exact left

/-- A question mark is no sign. -/
theorem mem_readSign {text : Text} (mark : '?' ∈ text) : '?' ∈ (readSign text).2 := by
  unfold readSign
  split
  · simpa using mark
  · simpa using mark
  · exact mark

/-- A text with a question mark is no integer. -/
theorem readInt_ne_ok {text : Text} (mark : '?' ∈ text) (number : Int) :
    readInt text ≠ .ok number := by
  have inside := mem_readSign (mem_dropWhile isSpace (mem_normalize mark) (by decide))
  have left := mem_dropWhile (fun c => c.isDigit || c == '_') inside (by decide)
  unfold readInt
  simp only [List.span_eq_takeWhile_dropWhile]
  split
  · simp
  · split
    · simp
    · rw [if_pos (List.any_eq_true.2 ⟨'?', left, by decide⟩)]
      simp

end RoutePattern.Decimal

namespace RoutePattern.Datum

/-- A number that is not too great is written as its numeral. -/
theorem intText_ofNat {n : Nat} (short : n < 10 ^ Decimal.digitLimit) :
    intText (n : Int) = some (Text.ofNat n) := by
  have size := Decimal.length_ofNat_le short
  have positive : ¬ (n : Int) < 0 := by omega
  rw [intText]
  simp only [Int.natAbs_natCast]
  rw [if_neg (by omega), if_neg positive]

end RoutePattern.Datum
