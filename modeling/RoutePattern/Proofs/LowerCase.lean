import RoutePattern.Proofs.Letter
import RoutePattern.Text.Case

/-!
# Texts in lower case

Lower case is where lowering ends: the lower case of a text stays as it is (`lower_lower`), because
no letter is the lower case of another one and has a lower case of its own. A character of ASCII
without case stands in the lower case of a text as often as in the text (`count_lower`), so lowering
neither makes nor removes a delimiter.
-/
namespace RoutePattern

namespace Unicode

/-- Some code point from `least` to `greatest` may be a letter of the block. -/
def CaseBlock.isNear (least greatest : Nat) (block : CaseBlock) : Bool :=
  Nat.ble least block.last && Nat.ble block.first greatest

/-- The other case of a letter of these blocks is no letter of them, and no capital of ASCII. -/
theorem lowerBlocks_map {block : CaseBlock} (known : block ∈ lowerBlocks) {code : Nat}
    (holds : block.holds code = true) :
    91 ≤ block.map code ∧ ∀ other ∈ lowerBlocks, other.holds (block.map code) = false := by
  have table : lowerBlocks.all (fun block => Nat.ble 91 block.image &&
      (lowerBlocks.filter
        (CaseBlock.isNear block.image (block.image + (block.last - block.first)))).all fun other =>
          (List.range (block.last + 1 - block.first)).all fun skipped =>
            skipped % block.step != 0 || !other.reaches (block.image + skipped)) = true := by
    decide +kernel
  obtain ⟨least, apart⟩ := Bool.and_eq_true_iff.1 (List.all_eq_true.1 table block known)
  simp only [CaseBlock.holds, Bool.and_eq_true, decide_eq_true_eq, beq_iff_eq] at holds
  obtain ⟨⟨low, high⟩, stepped⟩ := holds
  refine ⟨Nat.le_trans (Nat.le_of_ble_eq_true least) (Nat.le_add_right ..), ?_⟩
  intro other member
  by_contra inside
  rw [Bool.not_eq_false] at inside
  have near : other.isNear block.image (block.image + (block.last - block.first)) = true := by
    simp only [CaseBlock.holds, Bool.and_eq_true, decide_eq_true_eq] at inside
    rw [CaseBlock.map] at inside
    simp only [CaseBlock.isNear, Bool.and_eq_true, Nat.ble_eq]
    omega
  have each := List.all_eq_true.1 apart other (List.mem_filter.2 ⟨member, near⟩)
  have outside := List.all_eq_true.1 each (code - block.first) (List.mem_range.2 (by omega))
  rw [other.reaches_eq] at outside
  rw [CaseBlock.map] at inside
  rw [inside, stepped] at outside
  exact absurd outside (by decide)

/-- A lower case is its own lower case. -/
theorem toLower_toLower (code : Nat) : toLower (toLower code) = toLower code := by
  -- Beyond the capitals of ASCII and outside of the blocks a code point is its own image; the
  -- image of a block is such a one.
  have small {code : Nat} (above : 91 ≤ code)
      (outside : ∀ block ∈ lowerBlocks, block.holds code = false) : toLower code = code := by
    unfold toLower
    split
    · rw [asciiLower, if_neg]
      simp only [Bool.and_eq_true, decide_eq_true_eq]
      omega
    · have missing : lowerBlocks.find? (·.holds code) = none :=
        List.find?_eq_none.2 fun block known => by simp [outside block known]
      rw [mapCase, missing]
  by_cases ascii : code < 128
  · have within (code : Nat) (ascii : code < 128) : toLower code = asciiLower code := if_pos ascii
    have bound : asciiLower code < 128 := by
      unfold asciiLower
      split
      · next capital =>
        simp only [Bool.and_eq_true, decide_eq_true_eq] at capital
        omega
      · exact ascii
    rw [within code ascii, within _ bound]
    unfold asciiLower
    simp only [Bool.and_eq_true, decide_eq_true_eq]
    by_cases capital : 65 ≤ code ∧ code ≤ 90
    · rw [if_pos capital, if_neg (by omega)]
    · rw [if_neg capital, if_neg capital]
  · have above : toLower code = mapCase lowerBlocks code := if_neg ascii
    cases found : lowerBlocks.find? (·.holds code) with
    | none =>
      have own : toLower code = code := by rw [above, mapCase, found]
      rw [own, own]
    | some block =>
      have image : toLower code = block.map code := by rw [above, mapCase, found]
      obtain ⟨least, outside⟩ :=
        lowerBlocks_map (List.mem_of_find?_eq_some found) (List.find?_eq_some_iff_append.1 found).1
      rw [image]
      exact small least outside

/-- The lower case of a character is the code point of a character. -/
theorem toNat_ofNat_toLower (c : Char) :
    (Char.ofNat (toLower c.toNat)).toNat = toLower c.toNat := by
  -- The image of a block lies on one side of the surrogates.
  have table : lowerBlocks.all (fun block =>
      Nat.ble (block.image + (block.last - block.first)) 0xD7FF ||
        Nat.ble 0xE000 block.image &&
          Nat.ble (block.image + (block.last - block.first)) 0x10FFFF) = true := by
    decide +kernel
  have valid : (toLower c.toNat).isValidChar := by
    unfold toLower
    split
    · next ascii =>
      have bound : asciiLower c.toNat < 0xD800 := by
        unfold asciiLower
        split <;> omega
      exact .inl bound
    · unfold mapCase
      split
      · next block found =>
        have inside := List.all_eq_true.1 table block (List.mem_of_find?_eq_some found)
        have holds : block.holds c.toNat = true := (List.find?_eq_some_iff_append.1 found).1
        simp only [Bool.or_eq_true, Bool.and_eq_true, Nat.ble_eq] at inside
        simp only [CaseBlock.holds, Bool.and_eq_true, decide_eq_true_eq] at holds
        unfold Nat.isValidChar CaseBlock.map
        omega
      · exact c.valid
  rw [Char.ofNat, dif_pos valid]
  rfl

end Unicode

namespace Text

/-- A sigma has two lower cases, a capital i with a dot has one of two characters, and every other
character has the one that its code point has. -/
theorem lowerAt_cases (before : Text) (c : Char) (after : Text) :
    c = 'Σ' ∧ (lowerAt before c after = ['ς'] ∨ lowerAt before c after = ['σ']) ∨
      c = 'İ' ∧ lowerAt before c after = ['i', '\u0307'] ∨
      lowerAt before c after = [Char.ofNat (Unicode.toLower c.toNat)] := by
  unfold lowerAt
  by_cases sigma : c = 'Σ'
  · rw [if_pos (beq_iff_eq.2 sigma)]
    refine .inl ⟨sigma, ?_⟩
    split
    · exact .inl rfl
    · exact .inr rfl
  · rw [if_neg (by simpa using sigma)]
    by_cases dotted : c = 'İ'
    · rw [if_pos (beq_iff_eq.2 dotted)]
      exact .inr (.inl ⟨dotted, rfl⟩)
    · rw [if_neg (by simpa using dotted)]
      exact .inr (.inr rfl)

/-- A character that is its own lower case at every place of a text. -/
def IsLower (c : Char) : Prop := ∀ before after, lowerAt before c after = [c]

/-- A character whose code point is its own lower case is in lower case. -/
theorem isLower_of_toLower {c : Char} (same : Unicode.toLower c.toNat = c.toNat) : IsLower c := by
  intro before after
  rcases lowerAt_cases before c after with ⟨rfl, -⟩ | ⟨rfl, -⟩ | lowered
  · exact absurd same (by decide)
  · exact absurd same (by decide)
  · rw [lowered, same, Char.ofNat_toNat]

/-- The lower case of a character is in lower case. -/
theorem isLower_of_mem_lowerAt {before after : Text} {c d : Char}
    (found : d ∈ lowerAt before c after) : IsLower d := by
  rcases lowerAt_cases before c after with ⟨-, final | inner⟩ | ⟨-, dotted⟩ | lowered
  · rw [final, List.mem_singleton] at found
    exact found ▸ isLower_of_toLower (by decide)
  · rw [inner, List.mem_singleton] at found
    exact found ▸ isLower_of_toLower (by decide)
  · rw [dotted, List.mem_cons, List.mem_singleton] at found
    rcases found with rfl | rfl
    · exact isLower_of_toLower (by decide)
    · exact isLower_of_toLower (by decide)
  · rw [lowered, List.mem_singleton] at found
    subst found
    apply isLower_of_toLower
    rw [Unicode.toNat_ofNat_toLower]
    exact Unicode.toLower_toLower c.toNat

/-- Characters in lower case are left as they are. -/
theorem lowerAfter_eq_self {text : Text} (small : ∀ c ∈ text, IsLower c) (before : Text) :
    lowerAfter before text = text := by
  induction text generalizing before with
  | nil => rfl
  | cons c rest ih =>
    have first := small c (List.mem_cons_self ..) before rest
    rw [lowerAfter, first, ih fun d found => small d (List.mem_cons_of_mem _ found)]
    rfl

/-- Lowering leaves characters in lower case. -/
theorem isLower_of_mem_lowerAfter {before text : Text} {c : Char}
    (found : c ∈ lowerAfter before text) : IsLower c := by
  induction text generalizing before with
  | nil => exact absurd found List.not_mem_nil
  | cons d rest ih =>
    rcases List.mem_append.1 found with here | later
    · exact isLower_of_mem_lowerAt here
    · exact ih later

/-- The lower case of a text is its own lower case. -/
theorem lower_lower (text : Text) : lower (lower text) = lower text :=
  lowerAfter_eq_self (fun _ found => isLower_of_mem_lowerAfter found) []

/-- A character of ASCII without case. -/
structure IsCaseless (c : Char) : Prop where
  ascii : c.toNat < 128
  caseless : Unicode.hasCase c.toNat = false

/-- A character outside of ASCII or with a case is none without case. -/
theorem IsCaseless.ne {c : Char} (caseless : IsCaseless c) {d : Char}
    (cased : ¬ d.toNat < 128 ∨ Unicode.hasCase d.toNat = true) : d ≠ c := by
  rintro rfl
  rcases cased with outside | cased
  · exact outside caseless.ascii
  · exact absurd (cased.symm.trans caseless.caseless) (by decide)

/-- A character without case is lowered to itself, and no other character is lowered to it. -/
theorem count_lowerAt {c : Char} (caseless : IsCaseless c) (before : Text) (d : Char)
    (after : Text) : (lowerAt before d after).count c = [d].count c := by
  rcases lowerAt_cases before d after with ⟨rfl, final | inner⟩ | ⟨rfl, dotted⟩ | lowered
  · have capital : 'Σ' ≠ c := caseless.ne (.inl (by decide))
    have small : 'ς' ≠ c := caseless.ne (.inl (by decide))
    simp [final, capital, small]
  · have capital : 'Σ' ≠ c := caseless.ne (.inl (by decide))
    have small : 'σ' ≠ c := caseless.ne (.inl (by decide))
    simp [inner, capital, small]
  · have capital : 'İ' ≠ c := caseless.ne (.inl (by decide))
    have small : 'i' ≠ c := caseless.ne (.inr (by decide))
    have dot : '\u0307' ≠ c := caseless.ne (.inl (by decide))
    simp [dotted, capital, small, dot]
  · have same : Char.ofNat (Unicode.toLower d.toNat) = c ↔ d = c := by
      rw [← Char.toNat_inj, ← Char.toNat_inj, Unicode.toNat_ofNat_toLower]
      constructor
      · intro lowered
        by_contra apart
        have cased := Unicode.hasCase_of_toLower lowered apart
        exact absurd (cased.symm.trans caseless.caseless) (by decide)
      · intro same
        rw [same]
        exact Unicode.toLower_of_caseless caseless.caseless
    simp [lowered, List.count_singleton, beq_eq_decide, same]

/-- A character without case stands in the lower case of a text as often as in the text. -/
theorem count_lower {c : Char} (caseless : IsCaseless c) (text : Text) :
    (lower text).count c = text.count c := by
  have after (before text : Text) : (lowerAfter before text).count c = text.count c := by
    induction text generalizing before with
    | nil => rfl
    | cons d rest ih =>
      rw [lowerAfter, List.count_append, count_lowerAt caseless, ih, ← List.count_append,
        List.singleton_append]
  exact after [] text

/-- A character without case stands in the lower case of exactly the texts that it stands in. -/
theorem mem_lower_iff {c : Char} (caseless : IsCaseless c) {text : Text} :
    c ∈ lower text ↔ c ∈ text := by
  rw [← List.count_pos_iff, ← List.count_pos_iff, count_lower caseless]

/-- Only the empty text has an empty lower case. -/
theorem lower_eq_nil_iff {text : Text} : lower text = [] ↔ text = [] := by
  cases text with
  | nil => exact ⟨fun _ => rfl, fun _ => rfl⟩
  | cons c rest =>
    rcases lowerAt_cases [] c rest with ⟨-, final | inner⟩ | ⟨-, dotted⟩ | lowered
    · simp [lower, lowerAfter, final]
    · simp [lower, lowerAfter, inner]
    · simp [lower, lowerAfter, dotted]
    · simp [lower, lowerAfter, lowered]

end Text

end RoutePattern
