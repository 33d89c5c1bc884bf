import RoutePattern.Proofs.CharacterName
import RoutePattern.Proofs.Reading.Endings.Set

/-!
# What is taken of the tokens

What is read takes some tokens off the front and leaves the others. The tokens after these matter
little: as long as the first of them is the same, the same is taken and read (`Takes`), and what
comes after a set does not matter at all (`Takes.readSet`). An escape takes nothing that opens or
closes a group or a set, and a set is closed by the first bracket after its first item
(`SetItemsTake`).
-/
namespace RoutePattern.Regex

namespace Token

/-- A character that opens or closes neither a group nor a set. -/
def IsInner (token : Token) : Prop := ∃ c, token = .plain c ∧ c ∉ ['(', ')', '[', ']']

/-- Neither a bracket nor half of an escape. -/
theorem IsInner.ne {token : Token} (inner : token.IsInner) :
    token ∉ [.plain '(', .plain ')', .plain '[', .plain ']', .dangling] := by
  obtain ⟨c, rfl, other⟩ := inner
  simpa using other

end Token

/-- From some tokens to those that are left of them something is read, and only the tokens in
between and the first one after them decide that. -/
def Takes (gives : (start : Nat) → Cursor → Cursor → Prop) (tokens left : List Token) : Prop :=
  ∃ taken, tokens = taken ++ left ∧ (∀ token ∈ taken, token.IsInner) ∧
    ∀ rest start position, rest.head? = left.head? →
      ∃ place, gives start ⟨taken ++ rest, position⟩ ⟨rest, place⟩

namespace Takes

variable {gives later whole : (start : Nat) → Cursor → Cursor → Prop}
  {tokens middle left : List Token}

/-- Nothing is taken. -/
theorem nothing (here : ∀ start cursor, gives start cursor cursor) (tokens : List Token) :
    Takes gives tokens tokens :=
  ⟨[], rfl, fun _ none => absurd none List.not_mem_nil,
    fun _ start position _ => ⟨position, here start _⟩⟩

/-- One token is taken. -/
theorem one {token : Token} (inner : token.IsInner)
    (here : ∀ start tokens position, ∃ place,
      gives start ⟨token :: tokens, position⟩ ⟨tokens, place⟩) (left : List Token) :
    Takes gives (token :: left) left :=
  ⟨[token], rfl, List.forall_mem_singleton.2 inner, fun rest start position _ =>
    here start rest position⟩

/-- What is taken first, and what is taken after it. -/
theorem append (first : Takes gives tokens middle) (second : Takes later middle left)
    (both : ∀ start one two three, gives start one two → later start two three →
      whole start one three) : Takes whole tokens left := by
  obtain ⟨taken, rfl, inner, reads⟩ := first
  obtain ⟨more, rfl, inner', reads'⟩ := second
  refine ⟨taken ++ more, (List.append_assoc ..).symm, List.forall_mem_append.2 ⟨inner, inner'⟩,
    fun rest start position same => ?_⟩
  have next : (more ++ rest).head? = (more ++ left).head? := by
    rw [List.head?_append, List.head?_append, same]
  obtain ⟨place, first⟩ := reads (more ++ rest) start position next
  obtain ⟨last, second⟩ := reads' rest start place same
  exact ⟨last, by rw [List.append_assoc]; exact both _ _ _ _ first second⟩

/-- What is read amounts to something else. -/
theorem imp (takes : Takes gives tokens left)
    (amounts : ∀ start one two, gives start one two → whole start one two) :
    Takes whole tokens left := by
  obtain ⟨taken, cut, inner, reads⟩ := takes
  refine ⟨taken, cut, inner, fun rest start position same => ?_⟩
  obtain ⟨place, given⟩ := reads rest start position same
  exact ⟨place, amounts _ _ _ given⟩

/-- What is taken begins with the same token and is no longer than the tokens in front of it. -/
theorem also (takes : Takes gives tokens left) :
    Takes (fun start one two => gives start one two ∧ one.tokens.head? = tokens.head? ∧
      two.tokens.length ≤ one.tokens.length) tokens left := by
  obtain ⟨taken, rfl, inner, reads⟩ := takes
  refine ⟨taken, rfl, inner, fun rest start position same => ?_⟩
  obtain ⟨place, given⟩ := reads rest start position same
  refine ⟨place, given, ?_, ?_⟩
  · rw [List.head?_append, List.head?_append, same]
  · rw [List.length_append]
    exact Nat.le_add_left _ _

end Takes

/-! ## Characters of a class -/

/-- Characters of a class are taken off the front, up to the first that is not in the class. -/
theorem takes_takeWhile {accepts : Char → Bool}
    (plain : (['(', ')', '[', ']'].all fun sign => !accepts sign) = true) {limit : Nat}
    {cursor after : Cursor} {chars : Text}
    (found : cursor.takeWhile accepts limit = (chars, after)) :
    Takes (fun _ one two => one.takeWhile accepts limit = (chars, two)) cursor.tokens
      after.tokens := by
  induction limit generalizing cursor chars with
  | zero =>
    obtain ⟨rfl, rfl⟩ := Prod.mk.inj found
    exact .nothing (by intros; rfl) _
  | succ limit ih =>
    -- Where the next token is not in the class, nothing is taken in front of any like it.
    have stop (refused : ∀ c, cursor.tokens.head? = some (.plain c) → accepts c = false)
        (same : (([] : Text), cursor) = (chars, after)) :
        Takes (fun _ one two => one.takeWhile accepts (limit + 1) = (chars, two)) cursor.tokens
          after.tokens := by
      obtain ⟨rfl, rfl⟩ := Prod.mk.inj same
      refine ⟨[], rfl, fun _ none => absurd none List.not_mem_nil, fun rest _ position same => ?_⟩
      refine ⟨position, ?_⟩
      show Cursor.takeWhile accepts (limit + 1) ⟨rest, position⟩ = _
      unfold Cursor.takeWhile
      split
      · next c more here =>
        obtain rfl : rest = .plain c :: more := here
        rw [refused c same.symm]
        rfl
      · rfl
    obtain ⟨tokens, position⟩ := cursor
    rw [Cursor.takeWhile] at found
    split at found
    · next c more here =>
      obtain rfl : tokens = .plain c :: more := here
      split at found
      · next accepted =>
        cases next : Cursor.takeWhile accepts limit ⟨more, position + 1⟩ with
        | mk others last =>
        simp only [next] at found
        obtain ⟨rfl, rfl⟩ := Prod.mk.inj found
        have inner : (Token.plain c).IsInner := by
          refine ⟨c, rfl, fun sign => ?_⟩
          have wrong := List.all_eq_true.1 plain c sign
          rw [accepted] at wrong
          exact Bool.false_ne_true wrong
        have first : Takes (fun _ one two => one.tokens = .plain c :: two.tokens ∧
            one.position + 1 = two.position) (.plain c :: more) more :=
          Takes.one inner (fun _ _ position => ⟨position + 1, rfl, rfl⟩) more
        refine first.append (ih next) ?_
        rintro - one two three ⟨cut, moved⟩ later
        unfold Cursor.takeWhile
        simp only [cut, accepted, if_true, moved, later]
      · next refused =>
        refine stop (fun d same => ?_) found
        obtain rfl : c = d := by simpa using same
        exact Bool.not_eq_true _ ▸ refused
    · next other =>
      refine stop (fun c same => ?_) found
      cases tokens with
      | nil => exact absurd same (by simp)
      | cons token tokens =>
        obtain rfl : token = .plain c := by simpa using same
        exact absurd rfl (other c tokens)

/-! ## Escapes -/

section Escapes

variable {cursor after : Cursor} {start code : Nat} {letter : Char}

/-- A hexadecimal escape takes its digits. -/
theorem takes_readHexEscape {count : Nat}
    (read : readHexEscape letter count start cursor = .ok (code, after)) :
    Takes (fun start one two => readHexEscape letter count start one = .ok (code, two))
      cursor.tokens after.tokens := by
  cases found : cursor.takeWhile Text.isHex count with
  | mk digits last =>
  unfold readHexEscape at read
  simp only [found] at read
  split at read
  · exact absurd read (Cursor.fail_ne_ok _ _ _ _)
  · next enough =>
    split at read
    · next inside =>
      obtain ⟨rfl, rfl⟩ := Prod.mk.inj (Except.ok.inj read)
      refine (takes_takeWhile (by decide) found).imp fun start one two taken => ?_
      unfold readHexEscape
      simp only [taken, if_neg enough, if_pos inside]
    · split at read
      · exact absurd read (Cursor.fail_ne_ok _ _ _ _)
      · exact absurd read (Cursor.refuse_ne_ok _ _ _)

/-- A name goes on from what has been read of it. -/
theorem prefix_of_readName {terminator : Char} {what : String} {taken name : Text}
    {tokens : List Token} {position : Nat}
    (read : Cursor.readName terminator what taken tokens position = .ok (name, after)) :
    taken <+: name := by
  induction tokens generalizing taken position with
  | nil => exact absurd read (Cursor.readName_nil_ne_ok _)
  | cons token tokens ih =>
    by_cases dangling : token = .dangling
    · subst dangling
      exact absurd read (Cursor.fail_ne_ok _ _ _ _)
    · rcases (Cursor.readName_cons_eq_ok dangling).1 read with ⟨-, -, rfl, -⟩ | ⟨-, later⟩
      · exact List.prefix_rfl
      · exact (List.prefix_append ..).trans (ih later)

/-- A name between braces takes its characters and the closing brace. -/
theorem takes_readName {what : String} {taken name : Text} {tokens : List Token} {position : Nat}
    (read : Cursor.readName '\x7d' what taken tokens position = .ok (name, after))
    (signs : ∀ c ∈ name, Unicode.isNameSign c = true) :
    Takes (fun _ one two => Cursor.readName '\x7d' what taken one.tokens one.position =
      .ok (name, two)) tokens after.tokens := by
  induction tokens generalizing taken position with
  | nil => exact absurd read (Cursor.readName_nil_ne_ok _)
  | cons token tokens ih =>
    by_cases dangling : token = .dangling
    · subst dangling
      exact absurd read (Cursor.fail_ne_ok _ _ _ _)
    rcases (Cursor.readName_cons_eq_ok dangling).1 read with
      ⟨rfl, given, rfl, rfl⟩ | ⟨other, later⟩
    · refine .one ⟨_, rfl, by decide⟩ (fun _ tokens position => ⟨position + 1, ?_⟩) _
      exact (Cursor.readName_cons_eq_ok dangling).2 (.inl ⟨rfl, given, rfl, rfl⟩)
    · -- The token is one of the characters of the name.
      have member : ∀ c ∈ token.text, c ∈ name := fun c here =>
        (prefix_of_readName later).subset (List.mem_append_right _ here)
      have inner : token.IsInner := by
        cases token with
        | dangling => exact absurd rfl dangling
        | escaped c =>
          exact absurd (signs '\\' (member _ (List.mem_cons_self ..))) (by decide)
        | plain c =>
          refine ⟨c, rfl, fun sign => ?_⟩
          have known := signs c (member c (List.mem_singleton_self c))
          simp only [List.mem_cons, List.not_mem_nil, or_false] at sign
          rcases sign with rfl | rfl | rfl | rfl <;> exact absurd known (by decide)
      have first : Takes (fun _ one two => one.tokens = token :: two.tokens ∧
          one.position + token.width = two.position) (token :: tokens) tokens :=
        .one inner (fun _ _ position => ⟨position + token.width, rfl, rfl⟩) tokens
      refine first.append (ih later) ?_
      rintro - one two three ⟨cut, moved⟩ further
      rw [cut]
      exact (Cursor.readName_cons_eq_ok dangling).2 (.inr ⟨other, moved ▸ further⟩)

/-- A character by its name takes the name and the braces around it. -/
theorem takes_readNamedEscape (read : readNamedEscape start cursor = .ok (code, after)) :
    Takes (fun start one two => readNamedEscape start one = .ok (code, two)) cursor.tokens
      after.tokens := by
  obtain ⟨tokens, position⟩ := cursor
  unfold readNamedEscape at read
  split at read
  · next opened =>
    obtain ⟨tokens, rfl⟩ : ∃ rest, tokens = .plain '\x7b' :: rest := by
      cases tokens with
      | nil => exact absurd opened (by simp [Cursor.startsWith])
      | cons token rest => exact ⟨rest, by simpa [Cursor.startsWith] using opened⟩
    obtain ⟨⟨name, last⟩, named, found⟩ := exists_of_bind read
    simp only at found
    split at found
    · next known =>
      obtain ⟨rfl, rfl⟩ := Prod.mk.inj (Except.ok.inj found)
      have first : Takes (fun _ one two => one.tokens = .plain '\x7b' :: two.tokens ∧
          one.position + 1 = two.position) (.plain '\x7b' :: tokens) tokens :=
        .one ⟨_, rfl, by decide⟩ (fun _ _ position => ⟨position + 1, rfl, rfl⟩) tokens
      -- No known name has a brace in it, so the braces around it are the first ones.
      refine first.append (takes_readName named (Unicode.isNameSign_of_charNamed? known)) ?_
      rintro start ⟨_, position⟩ two three ⟨rfl, moved⟩ later
      have next : (⟨.plain '\x7b' :: two.tokens, position⟩ : Cursor).next = two := by
        obtain ⟨tokens, place⟩ := two
        obtain rfl : position + 1 = place := moved
        rfl
      have here : (⟨.plain '\x7b' :: two.tokens, position⟩ : Cursor).startsWith '\x7b' = true := by
        simp [Cursor.startsWith]
      unfold readNamedEscape
      simp only [if_pos here, next, later, bind, Except.bind, known]
      rfl
    · exact absurd found (Cursor.fail_ne_ok _ _ _ _)
  · exact absurd read (Cursor.fail_ne_ok _ _ _ _)

/-- An escape that names a code point. -/
theorem takes_readCodeEscape?
    (read : readCodeEscape? letter start cursor = some (.ok (code, after))) :
    Takes (fun start one two => readCodeEscape? letter start one = some (.ok (code, two)))
      cursor.tokens after.tokens := by
  unfold readCodeEscape? at read ⊢
  split at read
  · simpa only [*, if_true, Bool.false_eq_true, if_false, Option.some.injEq] using
      takes_readHexEscape (Option.some.inj read)
  split at read
  · simpa only [*, if_true, Bool.false_eq_true, if_false, Option.some.injEq] using
      takes_readHexEscape (Option.some.inj read)
  split at read
  · simpa only [*, if_true, Bool.false_eq_true, if_false, Option.some.injEq] using
      takes_readHexEscape (Option.some.inj read)
  split at read
  · simpa only [*, if_true, Bool.false_eq_true, if_false, Option.some.injEq] using
      takes_readNamedEscape (Option.some.inj read)
  · exact absurd read (by simp)

/-- Whether an escape names a code point shows by its letter alone. -/
theorem readCodeEscape?_eq_none (nothing : readCodeEscape? letter start cursor = none)
    (place : Nat) (other : Cursor) : readCodeEscape? letter place other = none := by
  unfold readCodeEscape? at nothing ⊢
  split at nothing
  · exact absurd nothing (by simp)
  split at nothing
  · exact absurd nothing (by simp)
  split at nothing
  · exact absurd nothing (by simp)
  split at nothing
  · exact absurd nothing (by simp)
  · simp only [*, if_false, Bool.false_eq_true]

/-- An escape without a meaning of its own stands for its letter. -/
theorem readPlainEscape_of_ok (read : readPlainEscape letter start cursor = .ok code) (place : Nat)
    (other : Cursor) : readPlainEscape letter place other = .ok code := by
  unfold readPlainEscape at read ⊢
  split at read
  · exact absurd read (Cursor.fail_ne_ok _ _ _ _)
  · next other => rwa [if_neg other]

/-- An escape inside a set. -/
theorem takes_readSetEscape {item : SetItem}
    (read : readSetEscape letter start cursor = .ok (item, after)) :
    Takes (fun start one two => readSetEscape letter start one = .ok (item, two)) cursor.tokens
      after.tokens := by
  unfold readSetEscape at read ⊢
  split at read
  · next blank =>
    obtain ⟨rfl, rfl⟩ := Prod.mk.inj (Except.ok.inj read)
    exact .nothing (by simp [blank]) _
  · next letters =>
    simp only [letters, Bool.false_eq_true, if_false]
    split at read
    · obtain ⟨rfl, rfl⟩ := Prod.mk.inj (Except.ok.inj read)
      exact .nothing (by simp [*]) _
    · obtain ⟨rfl, rfl⟩ := Prod.mk.inj (Except.ok.inj read)
      exact .nothing (by simp [*]) _
    · split at read
      · next result coded =>
        cases result with
        | error refusal => exact absurd read (by simp [Except.map])
        | ok found =>
          obtain ⟨code, last⟩ := found
          obtain ⟨rfl, rfl⟩ := Prod.mk.inj (Except.ok.inj read)
          refine (takes_readCodeEscape? coded).imp fun start one two coded => ?_
          simp only [*]
          rfl
      · next uncoded =>
        have uncoded := readCodeEscape?_eq_none uncoded
        split at read
        · next octal =>
          cases found : cursor.takeWhile isOctal 2 with
          | mk digits last =>
          simp only [found] at read
          split at read
          · exact absurd read (Cursor.fail_ne_ok _ _ _ _)
          · next small =>
            obtain ⟨rfl, rfl⟩ := Prod.mk.inj (Except.ok.inj read)
            refine (takes_takeWhile (by decide) found).imp fun start one two taken => ?_
            simp only [*, if_true, if_false]
        · next letters =>
          cases plain : readPlainEscape letter start cursor with
          | error refusal => exact absurd read (by simp [plain, Except.map])
          | ok code =>
            rw [plain] at read
            obtain ⟨rfl, rfl⟩ := Prod.mk.inj (Except.ok.inj read)
            have plain := readPlainEscape_of_ok plain
            refine .nothing (fun start one => ?_) _
            simp only [*, Bool.false_eq_true, if_false]
            rfl

/-- An item of a set takes nothing that closes the set. -/
theorem takes_readSetItem {token : Token} {item : SetItem}
    (read : readSetItem token start cursor = .ok (item, after)) :
    Takes (fun start one two => readSetItem token start one = .ok (item, two)) cursor.tokens
      after.tokens := by
  unfold readSetItem at read ⊢
  split at read
  · exact takes_readSetEscape read
  · obtain ⟨rfl, rfl⟩ := Prod.mk.inj (Except.ok.inj read)
    exact .nothing (by intros; rfl) _
  · exact absurd read (Cursor.fail_ne_ok _ _ _ _)

end Escapes

/-! ## Sets -/

/-- A range hangs on its two items alone. -/
theorem makeRange_of_ok {shownLow shownHigh : Text} {low high range : SetItem} {first : Cursor}
    (ok : makeRange shownLow shownHigh low high first = .ok range) (second : Cursor) :
    makeRange shownLow shownHigh low high second = .ok range := by
  unfold makeRange at ok ⊢
  simp only at ok ⊢
  split at ok
  · split at ok
    · exact absurd ok (Cursor.fail_ne_ok _ _ _ _)
    · next ordered => rwa [if_neg ordered]
  · exact absurd ok (Cursor.fail_ne_ok _ _ _ _)

/-- What is left of a set takes some tokens up to the first bracket, which closes it, and whatever
comes after the bracket, the same is read. -/
def SetTakes (gives : (start : Nat) → Cursor → Cursor → Prop) (tokens left : List Token) : Prop :=
  ∃ inner, tokens = inner ++ .plain ']' :: left ∧
    (∀ token ∈ inner, token ∉ [.plain ']', .dangling]) ∧
    ∀ rest start position, ∃ place,
      gives start ⟨inner ++ .plain ']' :: rest, position⟩ ⟨rest, place⟩

namespace SetTakes

variable {gives later whole : (start : Nat) → Cursor → Cursor → Prop}
  {tokens middle left : List Token} {token : Token}

/-- The bracket itself is all that is left. -/
theorem closed (here : ∀ start rest position, ∃ place,
    gives start ⟨.plain ']' :: rest, position⟩ ⟨rest, place⟩) (left : List Token) :
    SetTakes gives (.plain ']' :: left) left :=
  ⟨[], rfl, fun _ none => absurd none List.not_mem_nil, fun rest start position =>
    here start rest position⟩

/-- One more token. -/
theorem cons (takes : SetTakes gives tokens left) (other : token ∉ [.plain ']', .dangling])
    (amounts : ∀ start rest position, ∃ place, ∀ two, gives start ⟨rest, place⟩ two →
      whole start ⟨token :: rest, position⟩ two) : SetTakes whole (token :: tokens) left := by
  obtain ⟨inner, rfl, bare, reads⟩ := takes
  refine ⟨token :: inner, rfl, List.forall_mem_cons.2 ⟨other, bare⟩, fun rest start position => ?_⟩
  obtain ⟨middle, further⟩ := amounts start (inner ++ .plain ']' :: rest) position
  obtain ⟨place, given⟩ := reads rest start middle
  exact ⟨place, further _ given⟩

/-- What is read amounts to something else. -/
theorem imp (takes : SetTakes gives tokens left)
    (amounts : ∀ start one two, gives start one two → whole start one two) :
    SetTakes whole tokens left := by
  obtain ⟨inner, cut, bare, reads⟩ := takes
  refine ⟨inner, cut, bare, fun rest start position => ?_⟩
  obtain ⟨place, given⟩ := reads rest start position
  exact ⟨place, amounts _ _ _ given⟩

/-- What is read before the bracket takes as much, whatever comes after the bracket. -/
theorem both (takes : SetTakes later tokens left) (item : Takes gives tokens middle) :
    SetTakes (fun start one two => (∀ start, ∃ three, gives start one three ∧
      one.tokens.length - three.tokens.length = tokens.length - middle.length) ∧
        later start one two) tokens left := by
  obtain ⟨inner, cut, bare, reads⟩ := takes
  obtain ⟨taken, cut', plain, reads'⟩ := item
  refine ⟨inner, cut, bare, fun rest start position => ?_⟩
  obtain ⟨place, given⟩ := reads rest start position
  -- What is taken holds no bracket, so it ends before the first one.
  obtain ⟨more, rfl, whole⟩ : ∃ more, inner = taken ++ more ∧
      middle = more ++ .plain ']' :: left := by
    rcases List.append_eq_append_iff.1 (cut.symm.trans cut') with
      ⟨more, same, rest⟩ | ⟨more, same, rest⟩
    · cases more with
      | nil => exact ⟨[], by simpa using same.symm, by simpa using rest.symm⟩
      | cons token more =>
        obtain ⟨rfl, -⟩ := List.cons.inj rest
        exact absurd (plain (.plain ']') (by simp [same])).ne (by simp)
    · exact ⟨more, same, rest⟩
  refine ⟨place, fun start => ?_, given⟩
  have next : (more ++ .plain ']' :: rest).head? = middle.head? := by
    rw [whole]
    cases more <;> rfl
  obtain ⟨last, taking⟩ := reads' (more ++ .plain ']' :: rest) start position next
  refine ⟨_, by rw [List.append_assoc]; exact taking, ?_⟩
  simp only [cut', List.length_append]
  omega

end SetTakes

/-- From some tokens on the items of a set take what is in front of the first bracket, unless the
set has no item yet. -/
def SetItemsTake (tokens : List Token) : Prop :=
  ∀ start skip position items pending result after,
    readSetItems start tokens skip position items pending = .ok (result, after) →
    (∀ token ∈ tokens.take skip, token ≠ .plain ']') → (pending = .nothing → items ≠ []) →
    SetTakes (fun start one two =>
      readSetItems start one.tokens skip one.position items pending = .ok (result, two)) tokens
      after.tokens

namespace SetItemsTake

variable {tokens : List Token} (later : SetItemsTake tokens) {token : Token}
  {items result : List SetItem} {start position : Nat} {after : Cursor}
include later

/-- What is read after one item. -/
theorem afterItem {gives : (start : Nat) → Cursor → Cursor → Prop} {rest : Cursor}
    (item : Takes gives tokens rest.tokens) {pending : Pending}
    (begun : pending = .nothing → items ≠ [])
    (read : readSetItems start tokens (tokens.length - rest.tokens.length) position items pending =
      .ok (result, after)) :
    SetTakes (fun start one two => (∀ start, ∃ three, gives start one three ∧
        one.tokens.length - three.tokens.length = tokens.length - rest.tokens.length) ∧
      readSetItems start one.tokens (tokens.length - rest.tokens.length) one.position items
        pending = .ok (result, two)) tokens after.tokens := by
  refine (later _ _ _ _ _ _ _ read (fun token found => ?_) begun).both item
  obtain ⟨taken, cut, inner, -⟩ := item
  have length : tokens.length - rest.tokens.length = taken.length := by
    rw [cut, List.length_append, Nat.add_sub_cancel]
  rw [length, cut, List.take_left] at found
  rintro rfl
  exact absurd (inner _ found).ne (by simp)

/-- One more item. -/
theorem readNextItem
    (read : Regex.readNextItem start token tokens position items = .ok (result, after)) :
    SetTakes (fun start one two => ∀ position, one.position = position + token.width →
      Regex.readNextItem start token one.tokens position items = .ok (result, two)) tokens
      after.tokens := by
  obtain ⟨⟨item, rest⟩, first, second⟩ := exists_of_bind read
  have takes := later.afterItem (takes_readSetItem first) (by simp) second
  refine takes.imp ?_
  rintro start ⟨tokens, _⟩ two ⟨reads, further⟩ position rfl
  obtain ⟨three, here, length⟩ := reads position
  unfold Regex.readNextItem
  simp only [here, bind, Except.bind, length]
  exact further

/-- The end of a range. -/
theorem readRangeEnd {shown : Text} {low : SetItem}
    (read : Regex.readRangeEnd start token tokens position items shown low = .ok (result, after)) :
    SetTakes (fun start one two => ∀ position, one.position = position + token.width →
      Regex.readRangeEnd start token one.tokens position items shown low = .ok (result, two)) tokens
      after.tokens := by
  obtain ⟨⟨high, rest⟩, first, second⟩ := exists_of_bind read
  obtain ⟨range, made, second⟩ := exists_of_bind second
  have takes := later.afterItem (takes_readSetItem first) (by simp) second
  refine takes.imp ?_
  rintro start ⟨tokens, _⟩ two ⟨reads, further⟩ position rfl
  obtain ⟨three, here, length⟩ := reads position
  unfold Regex.readRangeEnd
  simp only [here, bind, Except.bind, makeRange_of_ok made three, length]
  exact further

/-- After a whole item a bracket ends the set, and any other token begins the next item. -/
theorem nothing (sound : token ≠ .dangling) (begun : items ≠ [])
    (read : readSetItems start (token :: tokens) 0 position items .nothing = .ok (result, after)) :
    SetTakes (fun start one two =>
      readSetItems start one.tokens 0 one.position items .nothing = .ok (result, two))
      (token :: tokens) after.tokens := by
  have some : items.isEmpty = false := by simpa using begun
  rw [readSetItems_nothing sound, some, Bool.not_false, Bool.and_true] at read
  split at read
  · next bracket =>
    obtain rfl := beq_iff_eq.1 bracket
    obtain ⟨rfl, rfl⟩ := Prod.mk.inj (Except.ok.inj read)
    refine .closed (fun start rest position => ⟨position + 1, ?_⟩) _
    simp [readSetItems_nothing, some, Token.width]
  · next other =>
    refine (later.readNextItem read).cons (by simpa [sound] using other)
      fun start rest position => ⟨position + token.width, fun two given => ?_⟩
    rw [← given position rfl, readSetItems_nothing sound, some, Bool.not_false, Bool.and_true,
      if_neg other]

/-- After an item that may begin a range a hyphen goes on with the range. -/
theorem item (sound : token ≠ .dangling) {shown : Text} {first : SetItem}
    (read : readSetItems start (token :: tokens) 0 position items (.item shown first) =
      .ok (result, after)) :
    SetTakes (fun start one two =>
      readSetItems start one.tokens 0 one.position items (.item shown first) = .ok (result, two))
      (token :: tokens) after.tokens := by
  by_cases hyphen : token = .plain '-'
  · subst hyphen
    rw [readSetItems_hyphen] at read
    refine (later _ _ _ _ _ _ _ read (by simp) (by simp)).cons (by simp)
      fun start rest position => ⟨position + 1, fun two given => ?_⟩
    rw [← given, readSetItems_hyphen]
  · rw [readSetItems_item sound _ _ _ _ _ hyphen] at read
    split at read
    · next bracket =>
      obtain rfl := beq_iff_eq.1 bracket
      obtain ⟨rfl, rfl⟩ := Prod.mk.inj (Except.ok.inj read)
      refine .closed (fun start rest position => ⟨position + 1, ?_⟩) _
      simp [readSetItems_item, Token.width]
    · next other =>
      refine (later.readNextItem read).cons (by simpa [sound] using other)
        fun start rest position => ⟨position + token.width, fun two given => ?_⟩
      rw [← given position rfl, readSetItems_item sound _ _ _ _ _ hyphen, if_neg other]

/-- After a hyphen a bracket ends the set, and any other token ends the range. -/
theorem rangeFrom (sound : token ≠ .dangling) {shown : Text} {low : SetItem}
    (read : readSetItems start (token :: tokens) 0 position items (.rangeFrom shown low) =
      .ok (result, after)) :
    SetTakes (fun start one two =>
      readSetItems start one.tokens 0 one.position items (.rangeFrom shown low) =
        .ok (result, two)) (token :: tokens) after.tokens := by
  by_cases bracket : token = .plain ']'
  · subst bracket
    rw [readSetItems] at read
    obtain ⟨rfl, rfl⟩ := Prod.mk.inj (Except.ok.inj read)
    exact .closed (fun start rest position => ⟨position + 1, rfl⟩) _
  · rw [readSetItems_rangeFrom sound _ _ _ _ _ bracket] at read
    refine (later.readRangeEnd read).cons (by simp [bracket, sound])
      fun start rest position => ⟨position + token.width, fun two given => ?_⟩
    rw [← given position rfl, readSetItems_rangeFrom sound _ _ _ _ _ bracket]

end SetItemsTake

/-- The items of a set take what is in front of the first bracket. -/
theorem setItemsTake (tokens : List Token) : SetItemsTake tokens := by
  induction tokens with
  | nil =>
    intro start skip position items pending result after read
    exact absurd read (Cursor.fail_ne_ok _ _ _ _)
  | cons token tokens ih =>
    intro start skip position items pending result after read passed begun
    have sound : token ≠ .dangling := by
      rintro rfl
      rw [readSetItems] at read
      exact absurd read (Cursor.fail_ne_ok _ _ _ _)
    cases skip with
    | succ skip =>
      -- A token of an escape that has been read is passed over, and not looked at again.
      obtain ⟨bare, passed⟩ := List.forall_mem_cons.1 passed
      rw [readSetItems_skip sound] at read
      refine (ih _ _ _ _ _ _ _ read passed begun).cons (by simp [bare, sound])
        fun start rest position => ⟨position + token.width, fun two given => ?_⟩
      rw [← given, readSetItems_skip sound]
    | zero =>
      cases pending with
      | nothing => exact ih.nothing sound (begun rfl) read
      | item shown first => exact ih.item sound read
      | rangeFrom shown low => exact ih.rangeFrom sound read

namespace Token

/-- The tokens between the brackets of a set without the sign that negates it. -/
def setBody (inner : List Token) : List Token :=
  if inner.head? = some (.plain '^') then inner.tail else inner

end Token

/-- The items of a set take a first item, which may be a bracket, and what is in front of the next
bracket. -/
theorem exists_inner_of_readSetItems {tokens : List Token} {start position : Nat}
    {items : List SetItem} {after : Cursor}
    (read : readSetItems start tokens 0 position [] .nothing = .ok (items, after)) :
    ∃ first inner, tokens = first :: inner ++ .plain ']' :: after.tokens ∧
      .dangling ∉ first :: inner ∧ .plain ']' ∉ inner ∧
      ∀ rest start position, ∃ place,
        readSetItems start (first :: inner ++ .plain ']' :: rest) 0 position [] .nothing =
          .ok (items, ⟨rest, place⟩) := by
  cases tokens with
  | nil => exact absurd read (Cursor.fail_ne_ok _ _ _ _)
  | cons first tokens =>
    have sound : first ≠ .dangling := by
      rintro rfl
      rw [readSetItems] at read
      exact absurd read (Cursor.fail_ne_ok _ _ _ _)
    rw [readSetItems_nothing sound, List.isEmpty_nil, Bool.not_true, Bool.and_false,
      if_neg Bool.false_ne_true] at read
    obtain ⟨inner, rfl, bare, reads⟩ := (setItemsTake tokens).readNextItem read
    refine ⟨first, inner, rfl, fun member => ?_, fun member => ?_, fun rest start position => ?_⟩
    · rcases List.mem_cons.1 member with same | member
      · exact sound same.symm
      · exact absurd (bare _ member) (by simp)
    · exact absurd (bare _ member) (by simp)
    · obtain ⟨place, given⟩ := reads rest start (position + first.width)
      refine ⟨place, ?_⟩
      rw [List.cons_append, readSetItems_nothing sound, List.isEmpty_nil, Bool.not_true,
        Bool.and_false, if_neg Bool.false_ne_true]
      exact given position rfl

/-- The expression for a set with some items, latest first. -/
def setExpr (negated : Bool) (items : List SetItem) : Expr :=
  match items.reverse.eraseDups, negated with
  | [.char code], true => .notChar code
  | [.char code], false => .char code
  | items, negated => .set negated items

/-- A set asks for one character. -/
theorem isPlain_setExpr (negated : Bool) (items : List SetItem) :
    (setExpr negated items).isPlain = true := by
  unfold setExpr
  split <;> rfl

/-- A set is made of its items and of the sign that may stand in front of them. -/
theorem readSet_eq (start : Nat) (cursor : Cursor) : readSet start cursor =
    let inside := if cursor.startsWith '^' then cursor.next else cursor
    (readSetItems start inside.tokens 0 inside.position [] .nothing).map fun read =>
      (setExpr (cursor.startsWith '^') read.1, read.2) := by
  unfold readSet
  simp only
  generalize (if cursor.startsWith '^' = true then cursor.next else cursor) = inside
  cases readSetItems start inside.tokens 0 inside.position [] .nothing with
  | error refusal => rfl
  | ok read =>
    obtain ⟨items, after⟩ := read
    simp only [bind, Except.bind, Except.map, setExpr]
    generalize items.reverse.eraseDups = items
    rcases items with _ | ⟨_ | _ | _, _ | _⟩ <;> cases cursor.startsWith '^' <;> rfl

/-- What is read as a set asks for one character. -/
theorem isPlain_of_readSet {start : Nat} {cursor after : Cursor} {expr : Expr}
    (read : readSet start cursor = .ok (expr, after)) : expr.isPlain = true := by
  rw [readSet_eq] at read
  cases found : readSetItems start
      (if cursor.startsWith '^' then cursor.next else cursor).tokens 0
      (if cursor.startsWith '^' then cursor.next else cursor).position [] .nothing with
  | error refusal => exact absurd read (by simp [found, Except.map])
  | ok items =>
    simp only [found] at read
    obtain ⟨rfl, -⟩ := Prod.mk.inj (Except.ok.inj read)
    exact isPlain_setExpr _ _

/-- A set takes what is between its brackets: a first item, which may be a bracket itself, and no
other bracket. Whatever comes after it, the same set is read. -/
theorem exists_inner_of_readSet {start : Nat} {cursor after : Cursor} {expr : Expr}
    (read : readSet start cursor = .ok (expr, after)) :
    ∃ inner, cursor.tokens = inner ++ .plain ']' :: after.tokens ∧ .dangling ∉ inner ∧
      .plain ']' ∉ (Token.setBody inner).tail ∧
      ∀ rest start position, ∃ place,
        readSet start ⟨inner ++ .plain ']' :: rest, position⟩ = .ok (expr, ⟨rest, place⟩) := by
  obtain ⟨tokens, position⟩ := cursor
  rw [readSet_eq] at read
  have items (negated : Bool) (tokens : List Token) (position : Nat)
      (read : (readSetItems start tokens 0 position [] .nothing).map (fun read =>
        (setExpr negated read.1, read.2)) = .ok (expr, after)) :
      ∃ first inner, tokens = first :: inner ++ .plain ']' :: after.tokens ∧
        .dangling ∉ first :: inner ∧ .plain ']' ∉ inner ∧ ∀ rest start position, ∃ place,
          (readSetItems start (first :: inner ++ .plain ']' :: rest) 0 position [] .nothing).map
            (fun read => (setExpr negated read.1, read.2)) = .ok (expr, ⟨rest, place⟩) := by
    cases found : readSetItems start tokens 0 position [] .nothing with
    | error refusal => exact absurd read (by simp [found, Except.map])
    | ok items =>
      rw [found] at read
      obtain ⟨rfl, rfl⟩ := Prod.mk.inj (Except.ok.inj read)
      obtain ⟨first, inner, cut, sound, bare, reads⟩ := exists_inner_of_readSetItems found
      refine ⟨first, inner, cut, sound, bare, fun rest start position => ?_⟩
      obtain ⟨place, given⟩ := reads rest start position
      exact ⟨place, by rw [given]; rfl⟩
  -- The sign that makes a complement stands in front of the items, and the first bracket after it
  -- is still an item.
  cases negated : (⟨tokens, position⟩ : Cursor).startsWith '^' with
  | true =>
    obtain ⟨tokens, rfl⟩ : ∃ rest, tokens = .plain '^' :: rest := by
      cases tokens with
      | nil => exact absurd negated (by simp [Cursor.startsWith])
      | cons token rest => exact ⟨rest, by simpa [Cursor.startsWith] using negated⟩
    rw [negated] at read
    obtain ⟨first, inner, rfl, sound, bare, reads⟩ := items true tokens (position + 1) read
    refine ⟨.plain '^' :: first :: inner, rfl, ?_, by simpa [Token.setBody] using bare,
      fun rest start position => ?_⟩
    · exact List.not_mem_cons_of_ne_of_not_mem (by simp) sound
    · obtain ⟨place, given⟩ := reads rest start (position + 1)
      exact ⟨place, by rw [readSet_eq]; exact given⟩
  | false =>
    rw [negated] at read
    obtain ⟨first, inner, rfl, sound, bare, reads⟩ := items false tokens position read
    have other : first ≠ .plain '^' := by
      rintro rfl
      exact absurd negated (by simp [Cursor.startsWith])
    refine ⟨first :: inner, rfl, sound, by simpa [Token.setBody, other] using bare,
      fun rest start position => ?_⟩
    obtain ⟨place, given⟩ := reads rest start position
    have bare : (⟨first :: inner ++ .plain ']' :: rest, position⟩ : Cursor).startsWith '^' =
        false := by
      simpa [Cursor.startsWith] using other
    refine ⟨place, ?_⟩
    rw [readSet_eq, bare]
    exact given

end RoutePattern.Regex
