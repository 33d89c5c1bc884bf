import RoutePattern.Unicode.Name

/-!
# What names of characters are made of

The names of characters hold letters, digits, spaces and hyphens, and nothing else
(`isNameSign_of_charNamed?`). The tables bear this out, and the names of the two large families are
spelled from sounds and digits.
-/
namespace RoutePattern.Unicode

/-- A letter, a digit, a space or a hyphen. -/
def isNameSign (c : Char) : Bool := c.isAlphanum || c == ' ' || c == '-'

/-- All characters of a text are such signs. This is the recursor itself: the tables are long, and
nothing has to be unfolded at each of their characters. -/
noncomputable def areNameSigns (text : Text) : Bool :=
  List.rec true (fun c _ later => match isNameSign c with | true => later | false => false) text

/-- All characters of a text are such signs. -/
theorem areNameSigns_iff {text : Text} :
    areNameSigns text = true ↔ ∀ c ∈ text, isNameSign c = true := by
  induction text with
  | nil => simp [areNameSigns]
  | cons c text ih =>
    rw [List.forall_mem_cons, ← ih]
    cases here : isNameSign c <;> simp [areNameSigns, here]

/-! ## Tables -/

/-- The characters of some strings, string by string. -/
inductive Spelled : List String → List Text → Prop
  | nil : Spelled [] []
  | cons {text : Text} {strings : List String} {texts : List Text} (later : Spelled strings texts) :
    Spelled (String.ofList text :: strings) (text :: texts)

/-- The characters of several runs of names. -/
inductive SpelledRuns : List NameRun → List (List Text) → Prop
  | nil : SpelledRuns [] []
  | cons {first : Nat} {strings : List String} {texts : List Text} {runs : List NameRun}
    {others : List (List Text)} (here : Spelled strings texts) (later : SpelledRuns runs others) :
    SpelledRuns (⟨first, strings⟩ :: runs) (texts :: others)

/-- The characters of several tables of names. -/
inductive SpelledTables : List (List NameRun) → List (List (List Text)) → Prop
  | nil : SpelledTables [] []
  | cons {runs : List NameRun} {texts : List (List Text)} {tables : List (List NameRun)}
    {others : List (List (List Text))} (here : SpelledRuns runs texts)
    (later : SpelledTables tables others) : SpelledTables (runs :: tables) (texts :: others)

/-- The strings are made of the characters that they are spelled with. -/
theorem Spelled.flatMap_toList {strings : List String} {texts : List Text}
    (spelled : Spelled strings texts) : strings.flatMap String.toList = texts.flatten := by
  induction spelled with
  | nil => rfl
  | cons _ ih => simp [ih]

/-- A run that is spelled with such signs holds nothing else. -/
theorem SpelledRuns.forall_isNameSign {runs : List NameRun} {texts : List (List Text)}
    (spelled : SpelledRuns runs texts) (each : texts.all (·.all areNameSigns) = true) :
    ∀ run ∈ runs, ∀ c ∈ run.written.flatMap String.toList, isNameSign c = true := by
  induction spelled with
  | nil => exact fun _ none => absurd none List.not_mem_nil
  | cons here _ ih =>
    rw [List.all_cons, Bool.and_eq_true] at each
    refine List.forall_mem_cons.2 ⟨fun c found => ?_, ih each.2⟩
    rw [here.flatMap_toList] at found
    obtain ⟨text, member, found⟩ := List.mem_flatten.1 found
    exact areNameSigns_iff.1 (List.all_eq_true.1 each.1 text member) c found

/-- Tables that are spelled with such signs hold nothing else. -/
theorem SpelledTables.forall_isNameSign {tables : List (List NameRun)}
    {texts : List (List (List Text))} (spelled : SpelledTables tables texts)
    (each : texts.all (·.all (·.all areNameSigns)) = true) : ∀ runs ∈ tables, ∀ run ∈ runs,
      ∀ c ∈ run.written.flatMap String.toList, isNameSign c = true := by
  induction spelled with
  | nil => exact fun _ none => absurd none List.not_mem_nil
  | cons here _ ih =>
    rw [List.all_cons, Bool.and_eq_true] at each
    exact List.forall_mem_cons.2 ⟨here.forall_isNameSign each.1, ih each.2⟩

/-- The tables are spelled with letters, digits, spaces and hyphens. -/
theorem exists_spelledTables : ∃ texts, SpelledTables nameRuns texts ∧
    texts.all (·.all (·.all areNameSigns)) = true := by
  apply Exists.intro
  apply And.intro
  · unfold nameRuns aliasNames latinNames mediterraneanNames southNames syllabicsNames
      extendedNames technicalNames operatorsNames easternNames modernNames presentationNames
      ancientNames brahmicNames hieroglyphsNames ideographicNames musicalNames signsNames
      pictographsNames ornamentsNames supplementaryNames
    repeat' constructor
  · decide +kernel

/-! ## Names in a run -/

/-- The entries of a run hold no other characters than it is written with. -/
theorem NameRun.mem_of_mem_entries {written : Text} {entry : Nat × Text}
    (known : entry ∈ entries written) : ∀ c ∈ entry.2, c ∈ written := by
  -- What has been read of the next entry is made of such characters, too.
  suffices both : ∀ written : Text, ∀ row, row = written.foldr
      (fun c (row : Text × List (Nat × Text)) =>
        if c.isLower then ([], (c.toNat - 'a'.toNat, row.1) :: row.2) else (c :: row.1, row.2))
      ([], []) →
      (∀ c ∈ row.1, c ∈ written) ∧ ∀ entry ∈ row.2, ∀ c ∈ entry.2, c ∈ written from
    (both written _ rfl).2 entry known
  intro written
  induction written with
  | nil =>
    rintro _ rfl
    exact ⟨fun _ none => absurd none List.not_mem_nil, fun _ none => absurd none List.not_mem_nil⟩
  | cons sign written ih =>
    rintro _ rfl
    have earlier := ih _ rfl
    rw [List.foldr_cons]
    generalize List.foldr _ _ written = row at earlier
    obtain ⟨text, entries⟩ := row
    obtain ⟨inText, inEntries⟩ := earlier
    have later : ∀ entry ∈ entries, ∀ c ∈ entry.2, c ∈ sign :: written :=
      fun entry known c found => List.mem_cons_of_mem _ (inEntries entry known c found)
    have further : ∀ c ∈ text, c ∈ sign :: written :=
      fun c found => List.mem_cons_of_mem _ (inText c found)
    simp only
    split
    · exact ⟨fun _ none => absurd none List.not_mem_nil, List.forall_mem_cons.2 ⟨further, later⟩⟩
    · exact ⟨List.forall_mem_cons.2 ⟨List.mem_cons_self .., further⟩, later⟩

/-- The names of a run hold no other characters than its entries. -/
theorem NameRun.forall_mem_names {holds : Char → Prop} {latest : List Text}
    {entries : List (Nat × Text)} (before : ∀ piece ∈ latest, ∀ c ∈ piece, holds c)
    (each : ∀ entry ∈ entries, ∀ c ∈ entry.2, holds c) :
    ∀ name ∈ names latest entries, ∀ piece ∈ name, ∀ c ∈ piece, holds c := by
  induction entries generalizing latest with
  | nil => exact fun _ none => absurd none List.not_mem_nil
  | cons entry entries ih =>
    obtain ⟨kept, text⟩ := entry
    obtain ⟨here, later⟩ := List.forall_mem_cons.1 each
    have name : ∀ piece ∈ latest.take kept ++ pieces text, ∀ c ∈ piece, holds c := by
      refine List.forall_mem_append.2 ⟨fun piece known => ?_, fun piece known c found => ?_⟩
      · exact before piece (List.mem_of_mem_take known)
      · refine here c ?_
        rw [← flatten_pieces text]
        exact List.mem_flatten.2 ⟨piece, known, found⟩
    rw [names]
    exact List.forall_mem_cons.2 ⟨name, ih name later⟩

/-- A name that is found in a run holds no other characters than the run is written with. -/
theorem NameRun.mem_of_find? {run : NameRun} {name : Text} {code : Nat}
    (found : run.find? name = some code) :
    ∀ c ∈ name, c ∈ run.written.flatMap String.toList := by
  obtain ⟨index, place, -⟩ := Option.map_eq_some_iff.1 found
  obtain ⟨inside, same, -⟩ := List.findIdx?_eq_some_iff_getElem.1 place
  intro c here
  rw [← flatten_pieces name, ← beq_iff_eq.1 same] at here
  obtain ⟨piece, known, here⟩ := List.mem_flatten.1 here
  exact forall_mem_names (by simp) (fun entry => mem_of_mem_entries) _
    (List.getElem_mem inside) piece known c here

/-! ## Names of families -/

/-- What is chosen of a list step by step, each time between what there is and the next, is one of
the list or what there was at the start. -/
theorem mem_of_foldl_choice {α : Type} {step : Option α → α → Option α}
    (choice : ∀ best next, ∀ chosen ∈ step best next, chosen ∈ best ∨ chosen = next)
    (list : List α) (best : Option α) :
    ∀ chosen ∈ list.foldl step best, chosen ∈ best ∨ chosen ∈ list := by
  induction list generalizing best with
  | nil => exact fun chosen found => .inl found
  | cons next list ih =>
    intro chosen found
    rcases ih (step best next) chosen found with earlier | later
    · rcases choice best next chosen earlier with before | rfl
      · exact .inl before
      · exact .inr (List.mem_cons_self ..)
    · exact .inr (List.mem_cons_of_mem _ later)

/-- A sound is cut off from the front of a text. -/
theorem append_of_readSound? {spellings : List String} {text rest : Text} {place : Nat}
    (read : readSound? spellings text = some (place, rest)) :
    ∃ sound ∈ spellings, text = sound.toList ++ rest := by
  unfold readSound? at read
  obtain ⟨⟨sound, index⟩, longest, same⟩ := Option.map_eq_some_iff.1 read
  obtain ⟨-, rfl⟩ := Prod.mk.inj same
  have either := mem_of_foldl_choice (by
    rintro (_ | longest) next chosen found
    · exact .inr (Option.some.inj found).symm
    · obtain rfl := Option.some.inj found
      split
      · exact .inr rfl
      · exact .inl rfl) _ none _ longest
  have member := either.resolve_left (by simp)
  obtain ⟨known, fits⟩ := List.mem_filter.1 member
  refine ⟨sound, (List.mem_zipIdx' known).2 ▸ List.getElem_mem _, ?_⟩
  obtain ⟨rest, rfl⟩ := List.isPrefixOf_iff_prefix.1 fits
  rw [← String.length_toList, List.drop_left]

/-- The syllables of Hangul are spelled with letters. -/
theorem isNameSign_of_syllable? {spelling : Text} {code : Nat}
    (found : syllable? spelling = some code) : ∀ c ∈ spelling, isNameSign c = true := by
  have table : (leadSounds ++ vowelSounds ++ tailSounds).all (areNameSigns ·.toList) = true := by
    decide +kernel
  have sounds (sound : String) (known : sound ∈ leadSounds ++ vowelSounds ++ tailSounds) :
      ∀ c ∈ sound.toList, isNameSign c = true :=
    areNameSigns_iff.1 (List.all_eq_true.1 table sound known)
  unfold syllable? at found
  obtain ⟨⟨_, afterLead⟩, lead, found⟩ := Option.bind_eq_some_iff.1 found
  obtain ⟨⟨_, afterVowel⟩, vowel, found⟩ := Option.bind_eq_some_iff.1 found
  obtain ⟨⟨_, afterTail⟩, tail, found⟩ := Option.bind_eq_some_iff.1 found
  obtain ⟨_, nothing, -⟩ := Option.bind_eq_some_iff.1 found
  obtain ⟨first, known, rfl⟩ := append_of_readSound? lead
  obtain ⟨second, known', rfl⟩ := append_of_readSound? vowel
  obtain ⟨third, known'', rfl⟩ := append_of_readSound? tail
  obtain rfl : afterTail = [] := by
    cases afterTail with
    | nil => rfl
    | cons c rest => exact absurd nothing.symm (Option.some_ne_none _)
  simp only [List.append_nil, List.forall_mem_append]
  exact ⟨sounds first (by simp [known]), sounds second (by simp [known']),
    sounds third (by simp [known''])⟩

/-- The names of the unified ideographs end with digits. -/
theorem isNameSign_of_ideograph? {digits : Text} {code : Nat}
    (found : ideograph? digits = some code) : ∀ c ∈ digits, isNameSign c = true := by
  unfold ideograph? at found
  simp only at found
  split at found
  · next sound =>
    simp only [Bool.and_eq_true, List.all_eq_true, Bool.or_eq_true, decide_eq_true_eq] at sound
    intro c here
    have letter : 'A' ≤ c ∧ c ≤ 'F' → c.isUpper = true := by
      rintro ⟨low, high⟩
      exact decide_eq_true ⟨low, UInt32.le_trans high (by decide)⟩
    rcases sound.1.2 c here with digit | capital
    · simp [isNameSign, Char.isAlphanum, digit]
    · have alpha : c.isAlpha = true := Bool.or_eq_true_iff.2 (.inl (letter capital))
      simp [isNameSign, Char.isAlphanum, alpha]
  · exact absurd found (by simp)

/-- A text that begins with a name of such signs and goes on with such signs. -/
theorem isNameSign_of_textAfter? {start : String} {name rest : Text}
    (cut : textAfter? start name = some rest) (fixed : areNameSigns start.toList = true)
    (later : ∀ c ∈ rest, isNameSign c = true) : ∀ c ∈ name, isNameSign c = true := by
  unfold textAfter? at cut
  split at cut
  · next begins =>
    obtain rfl := Option.some.inj cut
    obtain ⟨rest, rfl⟩ := List.isPrefixOf_iff_prefix.1 begins
    rw [← String.length_toList, List.drop_left] at later
    exact List.forall_mem_append.2 ⟨areNameSigns_iff.1 fixed, later⟩
  · exact absurd cut (by simp)

/-- The name of a character is made of letters, digits, spaces and hyphens. -/
theorem isNameSign_of_charNamed? {name : Text} {code : Nat} (found : charNamed? name = some code) :
    ∀ c ∈ name, isNameSign c = true := by
  unfold charNamed? at found
  split at found
  · next spelling cut =>
    exact isNameSign_of_textAfter? cut (by decide +kernel) (isNameSign_of_syllable? found)
  · next digits _ cut =>
    exact isNameSign_of_textAfter? cut (by decide +kernel) (isNameSign_of_ideograph? found)
  · obtain ⟨texts, spelled, each⟩ := exists_spelledTables
    obtain ⟨runs, known, found⟩ := List.exists_of_findSome?_eq_some found
    obtain ⟨run, known', found⟩ := List.exists_of_findSome?_eq_some found
    intro c here
    have capital := spelled.forall_isNameSign each runs known run known' _
      (NameRun.mem_of_find? found _ (List.mem_map_of_mem here))
    by_cases lower : c.isLower = true
    · have alpha : c.isAlpha = true := Bool.or_eq_true_iff.2 (.inr lower)
      simp [isNameSign, Char.isAlphanum, alpha]
    · have same : Char.ofNat (asciiUpper c.toNat) = c := by
        rw [asciiUpper, if_neg, Char.ofNat_toNat]
        intro small
        simp only [Bool.and_eq_true, decide_eq_true_eq] at small
        exact lower (Bool.and_eq_true_iff.2 ⟨decide_eq_true small.1, decide_eq_true small.2⟩)
      rwa [same] at capital

end RoutePattern.Unicode
