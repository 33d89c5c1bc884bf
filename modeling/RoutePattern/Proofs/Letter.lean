import Mathlib.Data.List.Basic
import RoutePattern.Regex.Character

/-!
# Characters without case

A code point that has no case is the same as another one only if it is the other one, whether case
is ignored or not (`sameCode_of_caseless`, `sameCode_caseless`). The tables bear this out: whatever
is the lower case of another letter has an upper case of its own (`hasCase_of_toLower`), and so have
the letters that count as a lower case beside their own.
-/
namespace RoutePattern

namespace Unicode

/-- A letter of a block is not its own other case. -/
theorem mapCase_ne {blocks : List CaseBlock}
    (moves : blocks.all (fun block => block.image != block.first) = true) {block : CaseBlock}
    (known : block ∈ blocks) {code : Nat} (holds : block.holds code = true) :
    mapCase blocks code ≠ code := by
  have found : (blocks.find? (·.holds code)).isSome = true :=
    List.find?_isSome.2 ⟨block, known, holds⟩
  obtain ⟨first, found⟩ := Option.isSome_iff_exists.1 found
  have moved := List.all_eq_true.1 moves first (List.mem_of_find?_eq_some found)
  have inside := List.find?_some found
  simp only [CaseBlock.holds, Bool.and_eq_true, decide_eq_true_eq] at inside
  simp only [bne_iff_ne, ne_eq] at moved
  simp only [mapCase, found, CaseBlock.map]
  omega

/-- No long upper case starts with the code point itself. -/
theorem headD_ne_of_long {entry : Nat × List Nat} (known : entry ∈ longUppers) :
    entry.2.headD entry.1 ≠ entry.1 := by
  have table : longUppers.all (fun entry => entry.2.headD entry.1 != entry.1) = true := by
    decide +kernel
  simpa using List.all_eq_true.1 table entry known

/-- A code point that is not its own upper case does not start its upper case either. -/
theorem upperStart_ne {code : Nat} (other : toUpper code ≠ code) : upperStart code ≠ code := by
  unfold upperStart fullUpper
  split
  · next codes found =>
    obtain ⟨before, after, cut, -⟩ := List.lookup_eq_some_iff.1 found
    exact @headD_ne_of_long (code, codes) (by rw [cut]; simp)
  · exact other

/-- A code point with a long upper case does not start it. -/
theorem upperStart_ne_of_long {entry : Nat × List Nat} (known : entry ∈ longUppers) :
    upperStart entry.1 ≠ entry.1 := by
  unfold upperStart fullUpper
  split
  · next codes found =>
    obtain ⟨before, after, cut, -⟩ := List.lookup_eq_some_iff.1 found
    exact @headD_ne_of_long (entry.1, codes) (by rw [cut]; simp)
  · next missing =>
    have unlike := List.lookup_eq_none_iff.1 missing entry known
    rw [bne_self_eq_false] at unlike
    exact absurd unlike Bool.false_ne_true

/-- The code point is a letter of the block, by the comparison that the kernel knows. -/
def CaseBlock.reaches (block : CaseBlock) (code : Nat) : Bool :=
  code.ble block.last && block.first.ble code && (code - block.first) % block.step == 0

/-- Both comparisons find the same letters. -/
theorem CaseBlock.reaches_eq (block : CaseBlock) (code : Nat) :
    block.reaches code = block.holds code := by
  rw [Bool.eq_iff_iff]
  simp only [CaseBlock.reaches, CaseBlock.holds, Bool.and_eq_true, Nat.ble_eq, decide_eq_true_eq]
  rw [and_comm (a := code ≤ block.last)]

/-- All other cases of the letters of another block are letters of the block. -/
def CaseBlock.covers (block other : CaseBlock) : Bool :=
  block.reaches (other.image + (other.last - other.first)) && block.reaches other.image &&
    other.step % block.step == 0

/-- The other case of a letter of a block that is covered is a letter of the block that covers it. -/
theorem CaseBlock.holds_of_covers {block other : CaseBlock} (covers : block.covers other = true)
    {code : Nat} (holds : other.holds code = true) : block.holds (other.map code) = true := by
  simp only [CaseBlock.covers, CaseBlock.reaches_eq, CaseBlock.holds, Bool.and_eq_true,
    decide_eq_true_eq, beq_iff_eq] at covers holds ⊢
  obtain ⟨⟨⟨⟨-, high⟩, -⟩, ⟨low, -⟩, aligned⟩, steps⟩ := covers
  obtain ⟨⟨least, most⟩, stepped⟩ := holds
  have apart : (code - other.first) % block.step = 0 :=
    Nat.mod_eq_zero_of_dvd
      (Nat.dvd_trans (Nat.dvd_of_mod_eq_zero steps) (Nat.dvd_of_mod_eq_zero stepped))
  have sum : other.map code - block.first =
      (other.image - block.first) + (code - other.first) := by
    simp only [CaseBlock.map]
    omega
  refine ⟨⟨?_, ?_⟩, ?_⟩
  · simp only [CaseBlock.map]
    omega
  · simp only [CaseBlock.map]
    omega
  · rw [sum, Nat.add_mod, aligned, apart, Nat.zero_mod]

/-- An upper case is listed for a code point. -/
def hasUpper (code : Nat) : Bool :=
  (Nat.ble 97 code && Nat.ble code 122) || longUppers.any (·.1.beq code) ||
    upperBlocks.any (·.reaches code)

/-- A code point has a case if an upper case is listed for it. -/
theorem hasCase_of_hasUpper {code : Nat} (listed : hasUpper code = true) : hasCase code = true := by
  have moves : upperBlocks.all (fun block => block.image != block.first) = true := by
    decide +kernel
  have above : upperBlocks.all (fun block => Nat.ble 128 block.first) = true := by
    decide +kernel
  have other : upperStart code ≠ code := by
    simp only [hasUpper, Bool.or_eq_true, Bool.and_eq_true, Nat.ble_eq, List.any_eq_true] at listed
    rcases listed with (letter | ⟨entry, known, same⟩) | ⟨block, known, reaches⟩
    · apply upperStart_ne
      rw [toUpper, if_pos (by omega), asciiUpper]
      simp only [Bool.and_eq_true, decide_eq_true_eq]
      rw [if_pos letter]
      omega
    · exact Nat.eq_of_beq_eq_true same ▸ upperStart_ne_of_long known
    · rw [block.reaches_eq] at reaches
      apply upperStart_ne
      have least := Nat.le_of_ble_eq_true (List.all_eq_true.1 above block known)
      have moved := mapCase_ne moves known reaches
      simp only [CaseBlock.holds, Bool.and_eq_true, decide_eq_true_eq] at reaches
      rw [toUpper, if_neg (by omega)]
      exact moved
  rw [hasCase, bne_iff_ne.2 other, Bool.or_true]

/-- The other case of a letter of these blocks has a case: as a rule there is a block for the way
back. -/
theorem hasCase_map {block : CaseBlock} (known : block ∈ lowerBlocks) {code : Nat}
    (holds : block.holds code = true) : hasCase (block.map code) = true := by
  have table : lowerBlocks.all (fun block =>
      (upperBlocks.find? fun upper => block.image.ble upper.last).any (·.covers block) ||
        (List.range (block.last + 1 - block.first)).all fun skipped =>
          skipped % block.step != 0 || hasUpper (block.image + skipped)) = true := by
    decide +kernel
  apply hasCase_of_hasUpper
  rcases Bool.or_eq_true_iff.1 (List.all_eq_true.1 table block known) with covered | each
  · obtain ⟨upper, found, covers⟩ := (Option.any_eq_true ..).1 covered
    have member := List.mem_of_find?_eq_some found
    have back := CaseBlock.holds_of_covers covers holds
    rw [hasUpper, List.any_eq_true.2 ⟨upper, member, (upper.reaches_eq _).trans back⟩, Bool.or_true]
  · simp only [CaseBlock.holds, Bool.and_eq_true, decide_eq_true_eq, beq_iff_eq] at holds
    have this := List.all_eq_true.1 each (code - block.first) (List.mem_range.2 (by omega))
    simpa [CaseBlock.map, holds.2] using this

/-- Whatever is the lower case of another code point has a case. -/
theorem hasCase_of_toLower {code lower : Nat} (same : toLower code = lower)
    (other : code ≠ lower) : hasCase lower = true := by
  unfold toLower at same
  split at same
  · unfold asciiLower at same
    split at same
    · next upper =>
      simp only [Bool.and_eq_true, decide_eq_true_eq] at upper
      have moved : toUpper lower ≠ lower := by
        rw [toUpper, if_pos (by omega), asciiUpper]
        split
        · omega
        · next outside =>
          simp only [Bool.and_eq_true, decide_eq_true_eq] at outside
          omega
      rw [hasCase, bne_iff_ne.2 (upperStart_ne moved), Bool.or_true]
    · exact absurd same other
  · unfold mapCase at same
    split at same
    · next block found =>
      rw [← same]
      have holds : block.holds code = true := (List.find?_eq_some_iff_append.1 found).1
      exact hasCase_map (List.mem_of_find?_eq_some found) holds
    · exact absurd same other

/-- Letters that count as the same lower case have a case. -/
theorem hasCase_of_mem_siblings {lower sibling : Nat}
    (found : sibling ∈ (caseSiblings.lookup lower).getD []) :
    hasCase lower = true ∧ hasCase sibling = true := by
  have table : caseSiblings.all (fun entry => (entry.1 :: entry.2).all hasUpper) = true := by
    decide +kernel
  cases listed : caseSiblings.lookup lower with
  | none =>
    rw [listed] at found
    exact absurd found List.not_mem_nil
  | some siblings =>
    rw [listed] at found
    obtain ⟨before, after, cut, -⟩ := List.lookup_eq_some_iff.1 listed
    have all := List.all_eq_true.1 (List.all_eq_true.1 table (lower, siblings) (by rw [cut]; simp))
    exact ⟨hasCase_of_hasUpper (all lower (List.mem_cons_self ..)),
      hasCase_of_hasUpper (all sibling (List.mem_cons_of_mem _ found))⟩

/-- A code point without case is its own lower case. -/
theorem toLower_of_caseless {code : Nat} (caseless : hasCase code = false) :
    toLower code = code := by
  have both := Bool.or_eq_false_iff.1 caseless
  simpa using both.1

/-- A code point without case counts as no other one, whichever of the two is looked for. -/
theorem sameLetter_of_caseless {one two : Nat}
    (caseless : hasCase one = false ∨ hasCase two = false) :
    sameLetter one two = (one == two) := by
  rw [Bool.eq_iff_iff, beq_iff_eq]
  constructor
  · intro same
    rw [sameLetter, foldClass, List.contains_iff_mem, List.mem_cons] at same
    have lowered : toLower two = toLower one := by
      refine same.resolve_right fun sibling => ?_
      obtain ⟨own, other⟩ := hasCase_of_mem_siblings sibling
      rcases caseless with none | none
      · rw [toLower_of_caseless none, none] at own
        exact absurd own Bool.false_ne_true
      · rw [toLower_of_caseless none, none] at other
        exact absurd other Bool.false_ne_true
    by_contra apart
    rcases caseless with none | none
    · rw [toLower_of_caseless none] at lowered
      exact absurd ((hasCase_of_toLower lowered (Ne.symm apart)).symm.trans none) (by decide)
    · rw [toLower_of_caseless none] at lowered
      exact absurd ((hasCase_of_toLower lowered.symm apart).symm.trans none) (by decide)
  · rintro rfl
    exact sameLetter_self one

/-- A digit is one of the ten code points from the zero of its script on. -/
theorem exists_zero_of_isDigit {code : Nat} (digit : isDigit code = true) :
    ∃ least ∈ digitZeros, least ≤ code ∧ code < least + 10 := by
  obtain ⟨value, found⟩ := Option.isSome_iff_exists.1 digit
  obtain ⟨least, known, -⟩ := Option.map_eq_some_iff.1 found
  have near := List.find?_some known
  simp only [Bool.and_eq_true, decide_eq_true_eq] at near
  exact ⟨least, List.mem_of_find?_eq_some known, near⟩

/-- Only the first zero is in ASCII. -/
theorem zero_of_lt {least : Nat} (known : least ∈ digitZeros) (low : least < 128) : least = 48 := by
  have ascii : ∀ least ∈ digitZeros, least < 128 → least = 48 := by decide
  exact ascii least known low

/-- A digit is its own lower case. -/
theorem toLower_of_isDigit {code : Nat} (digit : isDigit code = true) : toLower code = code := by
  have table : digitZeros.all (fun least => lowerBlocks.all fun block =>
      (block.last + 1).ble least || (least + 10).ble block.first) = true := by
    decide +kernel
  obtain ⟨least, known, near⟩ := exists_zero_of_isDigit digit
  have apart := List.all_eq_true.1 (List.all_eq_true.1 table least known)
  unfold toLower
  split
  · next low =>
    have first := zero_of_lt known (by omega)
    rw [asciiLower, if_neg]
    simp only [Bool.and_eq_true, decide_eq_true_eq]
    omega
  · unfold mapCase
    split
    · next block found =>
      have outside := apart block (List.mem_of_find?_eq_some found)
      have inside : block.holds code = true := (List.find?_eq_some_iff_append.1 found).1
      simp only [CaseBlock.holds, Bool.and_eq_true, decide_eq_true_eq] at inside
      simp only [Bool.or_eq_true, Nat.ble_eq] at outside
      omega
    · rfl

/-- A code point whose lower case is a digit is this digit. -/
theorem toLower_eq_self_of_isDigit {code : Nat} (digit : isDigit (toLower code) = true) :
    toLower code = code := by
  -- No block of capitals has its image among the ten digits of any script.
  have table : digitZeros.all (fun least => lowerBlocks.all fun block =>
      (block.image + (block.last - block.first) + 1).ble least ||
        (least + 10).ble block.image) = true := by
    decide +kernel
  obtain ⟨least, known, near⟩ := exists_zero_of_isDigit digit
  have apart := List.all_eq_true.1 (List.all_eq_true.1 table least known)
  unfold toLower at near ⊢
  split at near
  · next low =>
    rw [if_pos low]
    unfold asciiLower at near ⊢
    split at near
    · next letter =>
      simp only [Bool.and_eq_true, decide_eq_true_eq] at letter
      have first := zero_of_lt known (by omega)
      omega
    · next other => rw [if_neg other]
  · next high =>
    rw [if_neg high]
    unfold mapCase at near ⊢
    cases listed : lowerBlocks.find? (·.holds code) with
    | none => rfl
    | some block =>
      have outside := apart block (List.mem_of_find?_eq_some listed)
      have inside : block.holds code = true := (List.find?_eq_some_iff_append.1 listed).1
      simp only [listed, CaseBlock.map] at near
      simp only [CaseBlock.holds, Bool.and_eq_true, decide_eq_true_eq] at inside
      simp only [Bool.or_eq_true, Nat.ble_eq] at outside
      omega

/-- Only a digit has the lower case of a digit. -/
theorem isDigit_of_toLower {code : Nat} (digit : isDigit (toLower code) = true) :
    isDigit code = true := by
  rwa [toLower_eq_self_of_isDigit digit] at digit

/-- The lower case of a code point is a digit exactly if the code point is one. -/
theorem isDigit_toLower (code : Nat) : isDigit (toLower code) = isDigit code :=
  Bool.eq_iff_iff.2 ⟨isDigit_of_toLower, fun digit => by rwa [toLower_of_isDigit digit]⟩

/-- A letter of ASCII has a case. -/
theorem hasCase_of_isAsciiLetter {code : Nat} (letter : isAsciiLetter code = true) :
    hasCase code = true := by
  have table : ∀ code < 123, isAsciiLetter code = true → hasCase code = true := by
    decide +kernel
  refine table code ?_ letter
  simp only [isAsciiLetter, Bool.or_eq_true, Bool.and_eq_true, decide_eq_true_eq] at letter
  omega

end Unicode

namespace Regex

/-- Case plays no part in a code point without case. -/
theorem caseMatters_of_caseless {code : Nat} (caseless : Unicode.hasCase code = false)
    (flags : Flags) : caseMatters flags code = false := by
  have letter : Unicode.isAsciiLetter code = false :=
    Bool.eq_false_iff.2 fun letter =>
      absurd (Unicode.hasCase_of_isAsciiLetter letter) (by simp [caseless])
  rw [caseMatters, letter, caseless, ite_self, Bool.and_false]

/-- A literal stands for itself. -/
@[simp] theorem sameCode_self (flags : Flags) (code : Nat) : sameCode flags code code = true := by
  simp [sameCode, Unicode.sameLetter_self]

/-- A literal stands for a code point without case only if it is this code point. -/
theorem sameCode_of_caseless {flags : Flags} {literal code : Nat}
    (caseless : caseMatters flags literal = false ∨ caseMatters flags code = false) :
    sameCode flags literal code = (literal == code) := by
  unfold sameCode
  cases ignored : flags.ignoreCase with
  | false => rfl
  | true =>
    simp only [caseMatters, ignored, Bool.true_and] at caseless
    cases ascii : flags.ascii with
    | false =>
      simp only [ascii] at caseless
      exact Unicode.sameLetter_of_caseless caseless
    | true =>
      simp only [ascii, if_true, Unicode.isAsciiLetter, Bool.or_eq_false_iff, Bool.and_eq_false_iff,
        decide_eq_false_iff_not] at caseless
      simp only [Bool.not_true, Bool.false_eq_true, if_false, if_true]
      rw [Bool.eq_iff_iff, beq_iff_eq, beq_iff_eq]
      unfold Unicode.asciiLower
      simp only [Bool.and_eq_true, decide_eq_true_eq]
      split <;> split <;> omega

end Regex

end RoutePattern
