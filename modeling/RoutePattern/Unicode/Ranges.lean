

/-!
# Sets of code points as ranges

A property of characters is held as an ascending list of closed ranges of code points.
-/
namespace RoutePattern.Unicode

/-- A code point lies in one of the closed ranges. -/
def within (ranges : List (Nat × Nat)) (code : Nat) : Bool :=
  ranges.any fun range => range.1 ≤ code && code ≤ range.2

/-- Membership is membership in one range of the list. -/
theorem within_iff {ranges : List (Nat × Nat)} {code : Nat} :
    within ranges code = true ↔ ∃ range ∈ ranges, range.1 ≤ code ∧ code ≤ range.2 := by
  simp [within]

/-! ## Blank characters -/

/-- Spaces, line ends and the other characters that separate words. -/
def blankRanges : List (Nat × Nat) :=
  [(0x9, 0xD), (0x1C, 0x20), (0x85, 0x85), (0xA0, 0xA0), (0x1680, 0x1680), (0x2000, 0x200A),
   (0x2028, 0x2029), (0x202F, 0x202F), (0x205F, 0x205F), (0x3000, 0x3000)]

/-- A blank of any script. -/
def isBlank (code : Nat) : Bool := within blankRanges code

/-- A blank of ASCII that also counts where only the six classical ones do: space, tab, line
feed, vertical tab, form feed and carriage return. -/
def isAsciiBlank (code : Nat) : Bool := code == 32 || (9 ≤ code && code ≤ 13)

end RoutePattern.Unicode
