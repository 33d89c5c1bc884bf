import Mathlib.Data.List.TakeDrop
import Mathlib.Data.List.TakeWhile
import Mathlib.Tactic.Common
import RoutePattern.Text.Basic

/-!
# Text around a delimiter

Cutting a text at every occurrence of a delimiter, described by its first occurrence: the piece in
front of it, and the pieces of the text after it.
-/
namespace RoutePattern.Text

/-- The text in front of the first occurrence of a delimiter; all of it if there is none. -/
def before (delimiter : Char) (text : Text) : Text := text.takeWhile (· != delimiter)

/-- The text after the first occurrence of a delimiter; none of it if there is none. -/
def after (delimiter : Char) (text : Text) : Text := (text.dropWhile (· != delimiter)).drop 1

/-- No delimiter stands in front of its first occurrence. -/
theorem not_mem_before (delimiter : Char) (text : Text) : delimiter ∉ text.before delimiter := by
  intro found
  have := List.mem_takeWhile_imp found
  simp at this

/-- A text does not hold a delimiter exactly if each of its characters is another one. -/
theorem forall_bne_iff {delimiter : Char} {text : Text} :
    (∀ c ∈ text, (c != delimiter) = true) ↔ delimiter ∉ text := by
  constructor
  · intro other found
    exact bne_iff_ne.1 (other delimiter found) rfl
  · intro free c found
    rw [bne_iff_ne]
    rintro rfl
    exact free found

/-- A text without the delimiter stands in front of it as a whole. -/
theorem before_eq_self_iff {delimiter : Char} {text : Text} :
    text.before delimiter = text ↔ delimiter ∉ text :=
  List.takeWhile_eq_self_iff.trans forall_bne_iff

/-- After a delimiter that does not occur there is nothing. -/
theorem after_eq_nil {delimiter : Char} {text : Text} (free : delimiter ∉ text) :
    text.after delimiter = [] := by
  have gone : text.dropWhile (· != delimiter) = [] :=
    List.dropWhile_eq_nil_iff.2 (forall_bne_iff.2 free)
  rw [after, gone, List.drop_nil]

/-- A text without the delimiter puts nothing after its first occurrence. -/
theorem after_append {delimiter : Char} {front : Text} (free : delimiter ∉ front) (text : Text) :
    (front ++ text).after delimiter = text.after delimiter := by
  rw [after, List.dropWhile_append_of_pos (forall_bne_iff.2 free), after]

/-- The pieces of a text are the piece in front of the first delimiter and, if there is one, the
pieces after it. -/
theorem split_eq_cons (delimiter : Char) (text : Text) :
    split delimiter text = text.before delimiter ::
      if delimiter ∈ text then split delimiter (text.after delimiter) else [] := by
  induction text with
  | nil => simp [split, before]
  | cons c rest ih =>
    by_cases here : c = delimiter
    · simp [split, before, after, here]
    · have other : ¬ delimiter = c := fun same => here same.symm
      simp only [split, if_neg here, ih, List.mem_cons, other, false_or]
      simp [before, after, here]

/-- The first piece of a text stands in front of the first delimiter. -/
theorem headD_split (delimiter : Char) (text : Text) :
    (split delimiter text).headD [] = text.before delimiter := by
  rw [split_eq_cons, List.headD_cons]

/-- The text in front of the first occurrence of a delimiter, and the text after it. -/
theorem before_append_cons {delimiter : Char} {text : Text} (free : delimiter ∉ text)
    (rest : Text) : (text ++ delimiter :: rest).before delimiter = text ∧
      (text ++ delimiter :: rest).after delimiter = rest := by
  have inside : ∀ c ∈ text, (c != delimiter) = true := forall_bne_iff.2 free
  constructor
  · rw [before, List.takeWhile_append_of_pos inside]
    simp
  · rw [after, List.dropWhile_append_of_pos inside]
    simp

/-- A text that holds a delimiter is what stands in front of its first occurrence and after it. -/
theorem before_append_after {delimiter : Char} {text : Text} (found : delimiter ∈ text) :
    text.before delimiter ++ delimiter :: text.after delimiter = text := by
  obtain ⟨front, rest, rfl, free⟩ := List.eq_append_cons_of_mem found
  obtain ⟨before, after⟩ := before_append_cons free rest
  rw [before, after]

/-- A text is cut behind a piece that holds no delimiter. -/
theorem split_append_cons {delimiter : Char} {text : Text} (free : delimiter ∉ text)
    (rest : Text) :
    split delimiter (text ++ delimiter :: rest) = text :: split delimiter rest := by
  obtain ⟨before, after⟩ := before_append_cons free rest
  rw [split_eq_cons, before, after, if_pos (by simp)]

/-- A text without the delimiter is one piece. -/
theorem split_eq_singleton {delimiter : Char} {text : Text} (free : delimiter ∉ text) :
    split delimiter text = [text] := by
  rw [split_eq_cons, before_eq_self_iff.2 free, if_neg free]

/-- Pieces without the delimiter that are joined by it are cut apart again. -/
theorem split_join {delimiter : Char} {texts : List Text} (given : texts ≠ [])
    (free : ∀ text ∈ texts, delimiter ∉ text) :
    split delimiter (join [delimiter] texts) = texts := by
  induction texts with
  | nil => exact absurd rfl given
  | cons text texts ih =>
    have first := free text (List.mem_cons_self ..)
    cases texts with
    | nil => exact split_eq_singleton first
    | cons second texts =>
      have later := ih (by simp) fun other found =>
        free other (List.mem_cons_of_mem _ found)
      rw [join, List.append_assoc, List.singleton_append, split_append_cons first, later]
      simp

/-- A character of joined texts is one of the texts' or of what stands between them. -/
theorem mem_join {c : Char} {between : Text} {texts : List Text} (found : c ∈ join between texts) :
    c ∈ between ∨ ∃ text ∈ texts, c ∈ text := by
  fun_induction join between texts with
  | case1 => exact absurd found List.not_mem_nil
  | case2 text => exact .inr ⟨text, List.mem_singleton_self _, found⟩
  | case3 text texts more ih =>
    rcases List.mem_append.1 found with inside | inside
    · rcases List.mem_append.1 inside with inside | inside
      · exact .inr ⟨text, List.mem_cons_self .., inside⟩
      · exact .inl inside
    · rcases ih inside with inside | ⟨other, member, inside⟩
      · exact .inl inside
      · exact .inr ⟨other, List.mem_cons_of_mem _ member, inside⟩

/-- Cutting at one delimiter and then at another one does not depend on their order. -/
theorem before_before_comm (one two : Char) (text : Text) :
    (text.before one).before two = (text.before two).before one := by
  simp only [before, List.takeWhile_takeWhile, and_comm]

/-- A row of characters of a class ends where the first character outside of it comes. -/
theorem span_append {accepts : Char → Bool} {text rest : Text}
    (inside : ∀ c ∈ text, accepts c = true) (stop : ∀ c ∈ rest.head?, accepts c = false) :
    (text ++ rest).span accepts = (text, rest) := by
  have first : rest.takeWhile accepts = [] := by
    cases rest with
    | nil => rfl
    | cons c rest => simp [stop c rfl]
  have later : rest.dropWhile accepts = rest := by
    cases rest with
    | nil => rfl
    | cons c rest => simp [stop c rfl]
  rw [List.span_eq_takeWhile_dropWhile, List.takeWhile_append_of_pos inside,
    List.dropWhile_append_of_pos inside, first, later, List.append_nil]

/-! ## Characters of ASCII -/

/-- A code point that is no surrogate is the code of its character. -/
theorem toNat_ofNat {code : Nat} (valid : code.isValidChar) : (Char.ofNat code).toNat = code := by
  rw [Char.ofNat, dif_pos valid]
  rfl

/-- What holds for the first 128 characters holds for every character of ASCII. -/
theorem ascii_forall (holds : Char → Prop) (all : ∀ code < 128, holds (Char.ofNat code))
    {c : Char} (ascii : c.toNat < 128) : holds c := by
  rw [← Char.ofNat_toNat c]
  exact all c.toNat ascii

/-- Letters and digits of ASCII are characters of ASCII. -/
theorem toNat_lt_of_isAlphanum {c : Char} (alphanum : c.isAlphanum = true) : c.toNat < 128 := by
  rcases Bool.or_eq_true_iff.1 alphanum with letter | digit
  · rcases Bool.or_eq_true_iff.1 letter with upper | lower
    · have bounds : c.val ≥ 'A'.val ∧ c.val ≤ 'Z'.val := of_decide_eq_true upper
      exact Nat.lt_of_le_of_lt bounds.2 (by decide)
    · have bound : c.val ≤ 'z'.val := of_decide_eq_true (Bool.and_eq_true_iff.1 lower).2
      exact Nat.lt_of_le_of_lt bound (by decide)
  · have bound : c.val ≤ '9'.val := of_decide_eq_true (Bool.and_eq_true_iff.1 digit).2
    exact Nat.lt_of_le_of_lt bound (by decide)

end RoutePattern.Text
