import RoutePattern.Text.Basic

/-!
# Runs of character names

Neighbouring characters have similar names, so names are stored by what sets them apart. A name is
a row of pieces, each of which ends with a space or a hyphen, or ends the name. It is written as a
small letter, which tells how many pieces it has in common with the name before it (`a` for none),
and the pieces after those; names themselves have no small letters.
-/
namespace RoutePattern.Unicode

/-- The names of characters that follow one another. -/
structure NameRun where
  /-- The first code point. -/
  first : Nat
  /-- The names, written one after the other on several lines. -/
  written : List String
  deriving Repr, DecidableEq

namespace NameRun

/-- The pieces of a name. -/
def pieces : Text → List Text
  | [] => []
  | c :: rest =>
    if c == ' ' || c == '-' then [c] :: pieces rest
    else match pieces rest with
      | [] => [[c]]
      | piece :: others => (c :: piece) :: others

/-- The pieces of a name make up the name. -/
theorem flatten_pieces (name : Text) : (pieces name).flatten = name := by
  fun_induction pieces name with
  | case1 => rfl
  | case2 c rest _ ih => simp [ih]
  | case3 c rest _ empty ih => simpa [empty] using ih
  | case4 c rest _ piece others split ih => simpa [split] using ih

/-- The entries of a run: the count of pieces kept from the name before, and the further text. -/
def entries (written : Text) : List (Nat × Text) :=
  (written.foldr
    (fun c (text, entries) =>
      if c.isLower then ([], (c.toNat - 'a'.toNat, text) :: entries) else (c :: text, entries))
    ([], [])).2

/-- The pieces of all names of a run, given those of the name before the first entry. -/
def names (latest : List Text) : List (Nat × Text) → List (List Text)
  | [] => []
  | (kept, text) :: rest =>
    let name := latest.take kept ++ pieces text
    name :: names name rest

/-- The character of a run with the given name. -/
def find? (run : NameRun) (name : Text) : Option Nat :=
  ((names [] (entries (run.written.flatMap String.toList))).findIdx? (· == pieces name)).map (run.first + ·)

end NameRun

end RoutePattern.Unicode
