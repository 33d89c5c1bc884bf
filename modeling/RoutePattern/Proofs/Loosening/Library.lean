import RoutePattern.Proofs.Groups.Places

/-!
# Patterns without regular expressions of their own

A placeholder has the regular expression of the library for its kind unless the pattern gives it
another one between parentheses, or a converter of the caller does. So in a pattern without an
opening parenthesis whose converters are built in, every placeholder has a regular expression of the
library (`library_of_tokenize`).
-/
namespace RoutePattern

/-- The regular expressions that the library has for placeholders: those of parameters without one
of their own, that of an asterisk and those of the built-in converters. -/
def libraryRegexes : List Text :=
  [standardRegex none, standardRegex (some '/'), standardRegex (some '.'), ['.', '*']] ++
    Converters.builtin.entries.map fun entry => nonCapturing entry.2.regex

/-- All converters that can be named have regular expressions of the library. -/
def OnlyBuiltin (converters : Converters) : Prop :=
  ∀ name converter, converters.get? name = some converter →
    nonCapturing converter.regex ∈ libraryRegexes

/-- Without converters of the caller there are only built-in ones. -/
theorem onlyBuiltin_extended : OnlyBuiltin (Converters.extended Table.empty) := by
  intro name converter found
  obtain ⟨entry, known, rfl⟩ := Option.map_eq_some_iff.1 found
  have member : entry ∈ Converters.builtin.entries := List.mem_of_find?_eq_some known
  exact List.mem_append_right _ (List.mem_map_of_mem member)

section Heads

variable {text rest : Text} {head : PlaceholderHead}

/-- What is left of a text after some of its characters has no parenthesis if the text has none. -/
theorem not_mem_of_span {accepts : Char → Bool} {first later : Text}
    (cut : text.span accepts = (first, later)) (free : '(' ∉ text) : '(' ∉ later := by
  rw [List.span_eq_takeWhile_dropWhile] at cut
  obtain ⟨-, rfl⟩ := Prod.mk.inj cut
  exact fun found => free ((List.dropWhile_suffix accepts).subset found)

/-- A head between braces is no group, and leaves no parenthesis of a text without any. -/
theorem not_group_of_readBraced (read : readBraced text = some (head, rest)) (free : '(' ∉ text) :
    head ≠ .group ∧ '(' ∉ rest := by
  unfold readBraced at read
  split at read
  · next name left cut =>
    obtain ⟨rfl, rfl⟩ := Prod.mk.inj (Option.some.inj read)
    exact ⟨by simp, List.not_mem_of_not_mem_cons (not_mem_of_span cut free)⟩
  · next name left cut =>
    have inner := List.not_mem_of_not_mem_cons (not_mem_of_span cut free)
    split at read
    · next converter after cut' =>
      obtain ⟨rfl, rfl⟩ := Prod.mk.inj (Option.some.inj read)
      exact ⟨by simp, List.not_mem_of_not_mem_cons (not_mem_of_span cut' inner)⟩
    · exact absurd read (by simp)
  · exact absurd read (by simp)

/-- The head of a placeholder in a text without parentheses is no group, and leaves none. -/
theorem not_group_of_readHead (read : readHead text = some (head, rest)) (free : '(' ∉ text) :
    head ≠ .group ∧ '(' ∉ rest := by
  unfold readHead at read
  split at read
  · next left =>
    have inner := List.not_mem_of_not_mem_cons free
    split at read
    · exact absurd read (by simp)
    · next name after given cut =>
      obtain ⟨rfl, rfl⟩ := Prod.mk.inj (Option.some.inj read)
      exact ⟨by simp, not_mem_of_span cut inner⟩
  · exact not_group_of_readBraced read (List.not_mem_of_not_mem_cons free)
  · exact absurd (List.mem_cons_self ..) free
  · obtain ⟨rfl, rfl⟩ := Prod.mk.inj (Option.some.inj read)
    exact ⟨by simp, List.not_mem_of_not_mem_cons free⟩
  · exact absurd read (by simp)

/-- With a slash, a point or nothing in front of it. -/
theorem not_group_of_readLedHead {lead : Option Char}
    (read : readLedHead text = some (lead, head, rest)) (free : '(' ∉ text) :
    standardRegex lead ∈ libraryRegexes ∧ head ≠ .group ∧ '(' ∉ rest := by
  unfold readLedHead at read
  split at read
  · exact absurd read (by simp)
  · next c left =>
    split at read
    · next signed =>
      obtain ⟨⟨other, after⟩, found, same⟩ := Option.map_eq_some_iff.1 read
      obtain ⟨rfl, rfl, rfl⟩ : some c = lead ∧ other = head ∧ after = rest := by simpa using same
      refine ⟨?_, not_group_of_readHead found (List.not_mem_of_not_mem_cons free)⟩
      have either : c = '/' ∨ c = '.' := by simpa using signed
      rcases either with rfl | rfl <;> decide
    · obtain ⟨⟨other, after⟩, found, same⟩ := Option.map_eq_some_iff.1 read
      obtain ⟨rfl, rfl, rfl⟩ : none = lead ∧ other = head ∧ after = rest := by simpa using same
      exact ⟨by decide, not_group_of_readHead found free⟩

end Heads

/-- A converter that can be named gives a regular expression of the library. -/
theorem library_of_converterRegex {converters : Converters} {pattern name converter regex : Text}
    (builtin : OnlyBuiltin converters)
    (known : converterRegex converters pattern name converter = .ok regex) :
    regex ∈ libraryRegexes := by
  unfold converterRegex at known
  split at known
  · next found listed =>
    obtain rfl := Except.ok.inj known
    exact builtin converter found listed
  · exact absurd known (by simp)

/-- A placeholder that is no group and has no parenthesis after it has a regular expression of the
library, as long as the converters are built in. -/
theorem library_of_readPlaceholder {converters : Converters} {pattern text rest : Text}
    {lead : Option Char} {head : PlaceholderHead} {position : Nat} {placeholder : Placeholder}
    (builtin : OnlyBuiltin converters) (led : standardRegex lead ∈ libraryRegexes)
    (single : head ≠ .group) (free : '(' ∉ text)
    (read : readPlaceholder converters pattern lead head position text = .ok (placeholder, rest)) :
    placeholder.regex ∈ libraryRegexes := by
  cases head with
  | group => exact absurd rfl single
  | asterisk =>
    obtain ⟨rfl, -⟩ := Prod.mk.inj (Except.ok.inj read)
    exact (by decide : ['.', '*'] ∈ libraryRegexes)
  | named name =>
    have bare : (text.head? == some '(') = false := by
      cases text with
      | nil => rfl
      | cons c text => simpa using (List.ne_of_not_mem_cons free).symm
    simp only [readPlaceholder, bare, pure, Except.pure, bind, Except.bind] at read
    obtain ⟨rfl, -⟩ := Prod.mk.inj (Except.ok.inj read)
    exact led
  | braced inner converter =>
    simp only [readPlaceholder] at read
    split at read
    · exact absurd read (by simp)
    · obtain ⟨regex, known, made⟩ := exists_of_bind read
      obtain ⟨rfl, -⟩ := Prod.mk.inj (Except.ok.inj made)
      exact library_of_converterRegex builtin known

/-- All placeholders that are read from a text without parentheses. -/
theorem library_of_readTokens {converters : Converters} {pattern text literal : Text}
    {skip position : Nat} {tokens : List PatternToken} (builtin : OnlyBuiltin converters)
    (free : '(' ∉ text)
    (read : readTokens converters pattern text skip position literal = .ok tokens) :
    ∀ placeholder ∈ placeholders tokens, placeholder.regex ∈ libraryRegexes := by
  have kept (literal : Text) (tokens : List PatternToken) :
      placeholders (literalBefore literal tokens) = placeholders tokens := by
    cases literal <;> rfl
  fun_induction readTokens converters pattern text skip position literal generalizing tokens with
  | case1 skip position literal =>
    obtain rfl := Except.ok.inj read
    rw [kept]
    exact fun placeholder found => absurd found List.not_mem_nil
  | case2 head rest skip position literal ih => exact ih (List.not_mem_of_not_mem_cons free) read
  | case3 position literal escaped tail lineEnd ih =>
    exact ih (List.not_mem_of_not_mem_cons free) read
  | case4 position literal escaped tail other ih =>
    exact ih (List.not_mem_of_not_mem_cons free) read
  | case5 c rest position literal headless stray alone =>
    rw [headless] at read
    exact absurd (read.symm.trans (if_pos stray)) (by simp)
  | case6 c rest position literal headless plain alone ih =>
    rw [headless] at read
    exact ih (List.not_mem_of_not_mem_cons free) ((if_neg plain).symm.trans read)
  -- Without a parenthesis there is no regular expression of the pattern's own.
  | case7 c rest position literal lead head body led alone ih =>
    obtain ⟨standard, single, bare⟩ := not_group_of_readLedHead led free
    rw [led] at read
    obtain ⟨⟨placeholder, after⟩, placed, later⟩ := exists_of_bind read
    obtain ⟨found, others, made⟩ := exists_of_bind later
    obtain rfl := Except.ok.inj made
    rw [kept]
    refine List.forall_mem_cons.2 ⟨?_, ih after (List.not_mem_of_not_mem_cons free) others⟩
    exact library_of_readPlaceholder builtin standard single bare placed

/-- A pattern without an opening parenthesis has regular expressions of the library alone, as long as
its converters are built in. -/
theorem library_of_tokenize {own : Converters} {pattern : Text} {tokens : List PatternToken}
    (builtin : OnlyBuiltin (Converters.extended own)) (free : '(' ∉ pattern)
    (read : tokenize own pattern = .ok tokens) :
    ∀ placeholder ∈ placeholders tokens, placeholder.regex ∈ libraryRegexes :=
  library_of_readTokens builtin free read

end RoutePattern
