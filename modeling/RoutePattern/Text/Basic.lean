import RoutePattern.Unicode.Ranges

/-!
# Text

Text is a list of characters, so that reading it is recursion and positions are counts of
characters. Cutting at a separator loses nothing: joining the pieces gives the text back
(`Text.join_split`), and no piece holds the separator (`Text.not_mem_of_mem_split`).
-/
namespace RoutePattern

/-- A text as its characters in order. -/
abbrev Text := List Char

namespace Text

/-- The pieces of a text between the occurrences of a separator; there is always one. -/
def split (separator : Char) : Text → List Text
  | [] => [[]]
  | c :: rest =>
    if c = separator then [] :: split separator rest
    else match split separator rest with
      | [] => [[c]]
      | piece :: pieces => (c :: piece) :: pieces

/-- Pieces with a text between each two neighbours. -/
def join (between : Text) : List Text → Text
  | [] => []
  | [piece] => piece
  | piece :: pieces => piece ++ between ++ join between pieces

/-- A property of all characters of a text is checked one by one. -/
theorem forall_mem_iff_all {holds : Char → Prop} [DecidablePred holds] {text : Text} :
    (∀ c ∈ text, holds c) ↔ text.all (fun c => decide (holds c)) = true := by
  simp only [List.all_eq_true, decide_eq_true_eq]

/-- A text has at least one piece. -/
theorem split_ne_nil (separator : Char) (text : Text) : split separator text ≠ [] := by
  cases text with
  | nil => simp [split]
  | cons c rest =>
    simp only [split]
    split
    · simp
    · split <;> simp

/-- The pieces of a text, joined by the separator, are the text. -/
theorem join_split (separator : Char) (text : Text) :
    join [separator] (split separator text) = text := by
  induction text with
  | nil => rfl
  | cons c rest ih =>
    simp only [split]
    split
    · next same =>
      subst same
      cases pieces : split c rest with
      | nil => exact absurd pieces (split_ne_nil c rest)
      | cons piece more =>
        rw [pieces] at ih
        simp [join, ih]
    · cases pieces : split separator rest with
      | nil => exact absurd pieces (split_ne_nil separator rest)
      | cons piece more =>
        rw [pieces] at ih
        cases more with
        | nil => simpa [join] using ih
        | cons next later => simpa [join] using ih

/-- No piece of a text holds the separator. -/
theorem not_mem_of_mem_split {separator : Char} {text piece : Text}
    (found : piece ∈ split separator text) : separator ∉ piece := by
  induction text generalizing piece with
  | nil => simp_all [split]
  | cons c rest ih =>
    simp only [split] at found
    split at found
    · rcases List.mem_cons.1 found with rfl | later
      · simp
      · exact ih later
    · next different =>
      cases pieces : split separator rest with
      | nil => exact absurd pieces (split_ne_nil separator rest)
      | cons head more =>
        rw [pieces] at found ih
        rcases List.mem_cons.1 found with rfl | later
        · have := ih (List.mem_cons_self ..)
          simp only [List.mem_cons, not_or]
          exact ⟨fun same => different same.symm, this⟩
        · exact ih (List.mem_cons_of_mem _ later)

/-- A character is blank. -/
def isBlank (c : Char) : Bool := Unicode.isBlank c.toNat

/-- A text without the characters of a class at its two ends. -/
def trim (skip : Char → Bool) (text : Text) : Text :=
  ((text.dropWhile skip).reverse.dropWhile skip).reverse

/-- A text without the blanks at its two ends. -/
def strip (text : Text) : Text := trim isBlank text

/-- The decimal digits of a natural number. -/
def ofNat (n : Nat) : Text := Nat.toDigits 10 n

end Text

end RoutePattern
