import RoutePattern.Proofs.Letter
import RoutePattern.Proofs.Numeral

/-!
# Rows of digits with marks between them

A text that begins with a digit of any script and holds nothing but such digits, points and slashes
(`Divided`) is an integer exactly if it has neither point nor slash and no more digits than are read
(`readInt_isOk_iff`), and a fraction exactly if it has no slash and at most one point
(`readFraction_isSome_iff`).
-/
namespace RoutePattern

namespace Unicode

/-- No digit is blank. -/
theorem isBlank_of_isDigit {code : Nat} (digit : isDigit code = true) : isBlank code = false := by
  have table : ∀ least ∈ digitZeros, ∀ range ∈ blankRanges,
      range.2 < least ∨ least + 10 ≤ range.1 := by
    decide
  obtain ⟨least, known, low, high⟩ := exists_zero_of_isDigit digit
  rw [← Bool.not_eq_true, isBlank, within_iff]
  rintro ⟨range, member, below, above⟩
  have apart := table least known range member
  omega

end Unicode

/-- A text without characters to skip is trimmed to itself. -/
theorem Text.trim_eq_self {skip : Char → Bool} {text : Text} (solid : ∀ c ∈ text, skip c = false) :
    trim skip text = text := by
  have full (text : Text) (solid : ∀ c ∈ text, skip c = false) : text.dropWhile skip = text := by
    cases text with
    | nil => rfl
    | cons c text => simp [solid c (List.mem_cons_self ..)]
  rw [trim, full text solid, full _ fun c found => solid c (List.mem_reverse.1 found),
    List.reverse_reverse]

namespace Decimal

/-- A digit of any script. -/
def anyDigit (c : Char) : Bool := Unicode.isDigit c.toNat

/-- A point or a slash. -/
def isMark (c : Char) : Bool := c == '.' || c == '/'

/-- The marks are two characters. -/
theorem isMark_iff {c : Char} : isMark c = true ↔ c = '.' ∨ c = '/' := by simp [isMark]

/-- A text begins with a digit and holds nothing but digits and marks. -/
structure Divided (digit : Char → Bool) (text : Text) : Prop where
  starts : text.head?.any digit = true
  each : ∀ c ∈ text, digit c = true ∨ isMark c = true

/-! ## Digits of all scripts -/

/-- A digit of any script becomes a digit of ASCII. -/
theorem toAscii?_of_anyDigit {c : Char} (digit : anyDigit c = true) :
    ∃ ascii, toAscii? c = some ascii ∧ ascii.isDigit = true := by
  have values : ∀ value < 10, (Char.ofNat (48 + value)).isDigit = true := by decide
  unfold toAscii?
  simp only
  split
  · next low =>
    have table : ∀ code < 128, anyDigit (Char.ofNat code) = true →
        (Char.ofNat code).isDigit = true := by
      decide
    exact ⟨c, rfl,
      Text.ascii_forall (fun c => anyDigit c = true → c.isDigit = true) table low digit⟩
  · rw [if_neg (by simp [Unicode.isBlank_of_isDigit digit])]
    obtain ⟨value, found⟩ := Option.isSome_iff_exists.1 digit
    exact ⟨_, by rw [found]; rfl, values value (Unicode.digitValue?_lt found)⟩

/-- A mark is no digit. -/
theorem anyDigit_of_isMark {c : Char} (mark : isMark c = true) :
    anyDigit c = false ∧ c.isDigit = false ∧ toAscii? c = some c := by
  rcases isMark_iff.1 mark with rfl | rfl <;> decide

/-- The numeral of a divided text is one in ASCII, of the same length and with the same marks. -/
theorem divided_normalize {text : Text} (divided : Divided anyDigit text) :
    Divided Char.isDigit (normalize text) ∧ (normalize text).length = text.length ∧
      ∀ c, isMark c = true → (normalize text).count c = text.count c := by
  -- The induction goes without the first digit, since the tails of a text need not start with one.
  have whole (text : Text) (each : ∀ c ∈ text, anyDigit c = true ∨ isMark c = true) :
      (∀ c ∈ normalize text, c.isDigit = true ∨ isMark c = true) ∧
        (normalize text).length = text.length ∧
          ∀ c, isMark c = true → (normalize text).count c = text.count c := by
    induction text with
    | nil => exact ⟨by simp [normalize], rfl, fun _ _ => rfl⟩
    | cons c text ih =>
      obtain ⟨first, later⟩ := List.forall_mem_cons.1 each
      obtain ⟨plain, size, marks⟩ := ih later
      rcases first with digit | mark
      · obtain ⟨ascii, same, digit'⟩ := toAscii?_of_anyDigit digit
        simp only [normalize, same]
        refine ⟨List.forall_mem_cons.2 ⟨.inl digit', plain⟩, congrArg (· + 1) size, ?_⟩
        intro d mark
        obtain ⟨none, none', -⟩ := anyDigit_of_isMark mark
        have other : c ≠ d := by
          rintro rfl
          exact absurd (none.symm.trans digit) Bool.false_ne_true
        have other' : ascii ≠ d := by
          rintro rfl
          exact absurd (none'.symm.trans digit') Bool.false_ne_true
        rw [List.count_cons_of_ne other', List.count_cons_of_ne other, marks d mark]
      · simp only [normalize, (anyDigit_of_isMark mark).2.2]
        refine ⟨List.forall_mem_cons.2 ⟨.inr mark, plain⟩, congrArg (· + 1) size, ?_⟩
        intro d known
        rw [List.count_cons, List.count_cons, marks d known]
  obtain ⟨plain, size, marks⟩ := whole text divided.each
  refine ⟨⟨?_, plain⟩, size, marks⟩
  cases text with
  | nil => exact absurd divided.starts (by simp)
  | cons c text =>
    obtain ⟨ascii, same, digit⟩ := toAscii?_of_anyDigit (by simpa using divided.starts)
    simpa [normalize, same] using digit

/-- A divided text is a row of digits with nothing or a mark after it. -/
theorem Divided.exists_cut {text : Text} (divided : Divided Char.isDigit text) :
    ∃ digits rest, text = digits ++ rest ∧ digits ≠ [] ∧ (∀ c ∈ digits, c.isDigit = true) ∧
      (∀ c ∈ rest.head?, isMark c = true) ∧ ∀ c ∈ rest, c.isDigit = true ∨ isMark c = true := by
  refine ⟨text.takeWhile Char.isDigit, text.dropWhile Char.isDigit,
    List.takeWhile_append_dropWhile.symm, ?_, fun c found => List.mem_takeWhile_imp found, ?_,
    fun c found => divided.each c ((List.dropWhile_suffix _).subset found)⟩
  · cases text with
    | nil => exact absurd divided.starts (by simp)
    | cons c text =>
      have first : c.isDigit = true := by simpa using divided.starts
      simp [first]
  · intro c found
    have last := List.head?_dropWhile_not Char.isDigit text
    rw [Option.mem_def.1 found] at last
    have member : c ∈ text := (List.dropWhile_suffix _).subset (List.mem_of_mem_head? found)
    exact (divided.each c member).resolve_left (by simpa using last)

/-! ## Reading -/

variable {text : Text}

/-- A row of digits and marks without marks holds digits alone. -/
theorem all_digits_iff (each : ∀ c ∈ text, c.isDigit = true ∨ isMark c = true) :
    (∀ c ∈ text, c.isDigit = true) ↔ '/' ∉ text ∧ '.' ∉ text := by
  constructor
  · exact fun all => ⟨fun found => absurd (all _ found) (by decide),
      fun found => absurd (all _ found) (by decide)⟩
  · rintro ⟨slash, point⟩ c found
    refine (each c found).resolve_right fun mark => ?_
    rcases isMark_iff.1 mark with rfl | rfl
    · exact point found
    · exact slash found

/-- A row of digits with nothing or a mark after it has a mark exactly if something comes after
it. -/
theorem rest_eq_nil_iff {digits rest : Text} (all : ∀ c ∈ digits, c.isDigit = true)
    (stop : ∀ c ∈ rest.head?, isMark c = true) :
    rest = [] ↔ '/' ∉ digits ++ rest ∧ '.' ∉ digits ++ rest := by
  constructor
  · rintro rfl
    rw [List.append_nil]
    exact (all_digits_iff fun c found => .inl (all c found)).1 all
  · rintro ⟨slash, point⟩
    cases rest with
    | nil => rfl
    | cons c rest =>
      rcases isMark_iff.1 (stop c rfl) with rfl | rfl
      · exact absurd (by simp) point
      · exact absurd (by simp) slash

/-- A divided text is an integer exactly if it has no mark and no more digits than are read. -/
theorem readInt_isOk_iff (divided : Divided anyDigit text) : (∃ number, readInt text = .ok number) ↔
    '/' ∉ text ∧ '.' ∉ text ∧ text.length ≤ digitLimit := by
  obtain ⟨plain, size, marks⟩ := divided_normalize divided
  obtain ⟨digits, rest, numeral, given, all, stop, -⟩ := plain.exists_cut
  have absent (c : Char) (mark : isMark c = true) : c ∉ text ↔ c ∉ digits ++ rest := by
    rw [← numeral, ← List.count_eq_zero, ← List.count_eq_zero, marks c mark]
  have ended := rest_eq_nil_iff all stop
  rw [absent _ rfl, absent _ rfl, ← and_assoc, ← ended, ← size, numeral]
  rw [readInt_of_normalize numeral given all fun c found => by
    rcases isMark_iff.1 (stop c found) with rfl | rfl <;> decide]
  cases rest with
  | nil =>
    rw [List.append_nil]
    by_cases long : digitLimit < digits.length
    · simp [long]
    · simp [long, Nat.le_of_not_lt long]
  | cons c rest =>
    have solid : isSpace c = false := by
      rcases isMark_iff.1 (stop c rfl) with rfl | rfl <;> decide
    refine iff_of_false ?_ (by simp)
    rintro ⟨number, read⟩
    split at read
    · exact absurd read (by simp)
    · rw [if_pos (by simp [solid])] at read
      exact absurd read (by simp)

/-- A digit of ASCII stays the same in lower case. -/
theorem toLower_ne_of_isDigit {c : Char} (digit : c.isDigit = true) :
    c.toLower ≠ 'i' ∧ c.toLower ≠ 'n' := by
  have ascii : c.toNat < 128 := by
    apply Text.toNat_lt_of_isAlphanum
    rw [Char.isAlphanum, digit, Bool.or_true]
  exact Text.ascii_forall (fun c => c.isDigit = true → c.toLower ≠ 'i' ∧ c.toLower ≠ 'n')
    (by decide) ascii digit

/-- No mark begins an exponent. -/
theorem readExponent_isSome_iff {rest : Text} (stop : ∀ c ∈ rest.head?, isMark c = true) :
    (readExponent rest).isSome = true ↔ rest = [] := by
  cases rest with
  | nil => exact iff_of_true rfl rfl
  | cons c rest =>
    rcases isMark_iff.1 (stop c rfl) with rfl | rfl <;> simp [readExponent]

/-- Digits without a sign are a fraction if no more comes after them than a point and further
digits. -/
theorem readUnsigned_isSome_iff {digits rest : Text} (given : digits ≠ [])
    (all : ∀ c ∈ digits, c.isDigit = true) (stop : ∀ c ∈ rest.head?, isMark c = true)
    (each : ∀ c ∈ rest, c.isDigit = true ∨ isMark c = true) :
    (readUnsigned false (digits ++ rest)).isSome = true ↔
      rest = [] ∨ ∃ later, rest = '.' :: later ∧ ∀ c ∈ later, c.isDigit = true := by
  obtain ⟨first, others, rfl⟩ := List.exists_cons_of_ne_nil given
  -- The words for infinity and for no number start with a letter, so they are not tried.
  have letters := toLower_ne_of_isDigit (all first (List.mem_cons_self ..))
  have words : ∀ word ∈ ["inf", "infinity", "nan"],
      spells word (first :: others ++ rest) = false := by
    simp [spells, letters]
  have cut : (first :: others ++ rest).span Char.isDigit = (first :: others, rest) :=
    Text.span_append all fun c found => (anyDigit_of_isMark (stop c found)).2.1
  simp only [List.forall_mem_cons] at words
  obtain ⟨short, long, nan, -⟩ := words
  unfold readUnsigned
  simp only [short, long, nan, cut, Bool.or_self, Bool.false_eq_true, if_false, List.isEmpty_cons,
    Bool.false_and]
  cases rest with
  | nil => exact iff_of_true rfl (.inl rfl)
  | cons c rest =>
    have either : c = '.' ∨ c = '/' := by simpa [isMark] using stop c rfl
    have later := (List.forall_mem_cons.1 each).2
    rcases either with rfl | rfl
    · have stops : ∀ c ∈ (rest.dropWhile Char.isDigit).head?, isMark c = true := by
        intro c found
        have last := List.head?_dropWhile_not Char.isDigit rest
        rw [Option.mem_def.1 found] at last
        have member : c ∈ rest := (List.dropWhile_suffix _).subset (List.mem_of_mem_head? found)
        exact (later c member).resolve_left (by simpa using last)
      simp only [List.span_eq_takeWhile_dropWhile, Option.isSome_map,
        readExponent_isSome_iff stops, List.dropWhile_eq_nil_iff]
      simp
    · simp [readExponent]

/-- A divided text is a fraction exactly if it has no slash and at most one point. -/
theorem readFraction_isSome_iff (divided : Divided anyDigit text) :
    (readFraction text).isSome = true ↔ '/' ∉ text ∧ text.count '.' ≤ 1 := by
  obtain ⟨plain, -, marks⟩ := divided_normalize divided
  have solid (c : Char) (found : c ∈ normalize text) : c ≠ '_' ∧ isSpace c = false := by
    rcases plain.each c found with digit | mark
    · have known := plain_of_isDigit digit
      exact ⟨known.2.2.2.2, known.2.1⟩
    · rcases isMark_iff.1 mark with rfl | rfl <;> decide
  have free : (normalize text).contains '_' = false := by
    simpa using fun found => (solid '_' found).1 rfl
  have filtered : (normalize text).filter (· != '_') = normalize text :=
    List.filter_eq_self.2 fun c found => bne_iff_ne.2 (solid c found).1
  have trimmed := Text.trim_eq_self fun c found => (solid c found).2
  obtain ⟨digits, rest, numeral, given, all, stop, each⟩ := plain.exists_cut
  have unsigned : readSign (digits ++ rest) = (false, digits ++ rest) := by
    obtain ⟨first, others, rfl⟩ := List.exists_cons_of_ne_nil given
    exact readSign_of_isDigit (all first (List.mem_cons_self ..)) _
  have read : readFraction text = readUnsigned false (digits ++ rest) := by
    simp only [readFraction, free, filtered, trimmed, Bool.false_and, Bool.false_eq_true, if_false]
    rw [numeral, unsigned]
  have slash : '/' ∉ text ↔ (digits ++ rest).count '/' = 0 := by
    rw [← numeral, marks '/' rfl, List.count_eq_zero]
  rw [read, readUnsigned_isSome_iff given all stop each, slash, ← marks '.' rfl, numeral]
  have none (c : Char) (mark : isMark c = true) : digits.count c = 0 := by
    refine List.count_eq_zero.2 fun found => ?_
    exact absurd ((anyDigit_of_isMark mark).2.1.symm.trans (all c found)) Bool.false_ne_true
  rw [List.count_append, List.count_append, none '/' rfl, none '.' rfl, Nat.zero_add, Nat.zero_add]
  cases rest with
  | nil => simp
  | cons c rest =>
    rcases isMark_iff.1 (stop c rfl) with rfl | rfl
    · have later := (List.forall_mem_cons.1 each).2
      simp [all_digits_iff later, List.count_eq_zero]
    · simp

end Decimal

end RoutePattern
