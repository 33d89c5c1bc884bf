import Mathlib.Algebra.GroupWithZero.Nat
import Mathlib.Logic.Relation
import RoutePattern.Regex.Program

/-!
# Scans of a regular expression

Reading a regular expression goes from scan to scan: a reader in front of a token, some of which
may have been read with an earlier one (`Scan.next?`). Reading from a scan on is reading from every
scan that it reaches (`readTokens_of_reaches`), and a source is scanned in only one way
(`Reaches.of_le`).
-/
namespace RoutePattern

/-- Two steps succeed one after the other if each of them does. -/
theorem exists_of_bind {ε α β : Type} {first : Except ε α} {next : α → Except ε β} {result : β}
    (ok : first >>= next = .ok result) : ∃ value, first = .ok value ∧ next value = .ok result := by
  cases first with
  | error failure => exact absurd ok (by simp [bind, Except.bind])
  | ok value => exact ⟨value, rfl, ok⟩

namespace Regex

namespace Token

/-- A token holds at least one character. -/
theorem width_pos (token : Token) : 0 < token.width := by
  cases token with
  | plain c => exact Nat.one_pos
  | escaped c => exact Nat.two_pos
  | dangling => exact Nat.one_pos

/-- A character by itself is no backslash at the end. -/
theorem plain_ne_dangling (c : Char) : Token.plain c ≠ .dangling := by simp

/-- An escape is no backslash at the end. -/
theorem escaped_ne_dangling (c : Char) : Token.escaped c ≠ .dangling := by simp

/-- The tokens after the first one are those of the text after it. -/
theorem ofText_drop {token : Token} {tokens : List Token} {text : Text}
    (cut : ofText text = token :: tokens) : tokens = ofText (text.drop token.width) := by
  fun_cases ofText text with
  | case1 => exact absurd cut (by simp [ofText])
  | case2 =>
    obtain ⟨rfl, rfl⟩ := List.cons.inj cut
    rfl
  | case3 c rest =>
    rw [ofText] at cut
    obtain ⟨rfl, rfl⟩ := List.cons.inj cut
    rfl
  | case4 c rest alone bare =>
    rw [ofText] at cut
    · obtain ⟨rfl, rfl⟩ := List.cons.inj cut
      rfl
    · exact alone
    · exact bare

end Token

/-- A reader between two tokens, with the tokens that are left. -/
structure Scan where
  reader : Reader
  tokens : List Token
  /-- How many of the tokens belong to what has been read. -/
  skip : Nat
  /-- The place of the tokens in the source. -/
  position : Nat

namespace Scan

/-- The scan after one more token, unless there is none or reading it fails. -/
def next? : Scan → Option Scan
  | ⟨_, [], _, _⟩ => none
  | ⟨_, .dangling :: _, _, _⟩ => none
  | ⟨reader, token :: tokens, skip + 1, position⟩ =>
    some ⟨reader, tokens, skip, position + token.width⟩
  | ⟨reader, token :: tokens, 0, position⟩ =>
    match reader.readToken token position ⟨tokens, position + token.width⟩ with
    | .ok (next, cursor) =>
      some ⟨next, tokens, tokens.length - cursor.tokens.length, position + token.width⟩
    | .error _ => none

/-- Reading goes from one scan to another one. -/
abbrev Reaches : Scan → Scan → Prop := Relation.ReflTransGen fun one two => one.next? = some two

/-- A reader in front of a text that it has not begun to read. -/
def facing (reader : Reader) (position : Nat) (text : Text) : Scan :=
  ⟨reader, Token.ofText text, 0, position⟩

/-- The scan in front of a source. -/
def start (source : Text) (flags : Flags) : Scan := facing (Reader.start flags) 0 source

/-- What one token does: it is passed over, or it is read. -/
theorem next?_cases {one two : Scan} (next : one.next? = some two) :
    ∃ token tokens, one.tokens = token :: tokens ∧ token ≠ .dangling ∧ two.tokens = tokens ∧
      two.position = one.position + token.width ∧
      (one.skip = two.skip + 1 ∧ two.reader = one.reader ∨
        one.skip = 0 ∧ ∃ cursor, one.reader.readToken token one.position
          ⟨tokens, one.position + token.width⟩ = .ok (two.reader, cursor) ∧
            two.skip = tokens.length - cursor.tokens.length) := by
  obtain ⟨reader, tokens, skip, position⟩ := one
  cases tokens with
  | nil => exact absurd next (by simp [next?])
  | cons token tokens =>
    have sound : token ≠ .dangling := by
      rintro rfl
      exact absurd next (by simp [next?])
    cases skip with
    | succ skip =>
      rw [next?] at next
      · obtain rfl := Option.some.inj next
        exact ⟨token, tokens, rfl, sound, rfl, rfl, .inl ⟨rfl, rfl⟩⟩
      · exact fun same => sound same
    | zero =>
      rw [next?] at next
      · cases read : reader.readToken token position ⟨tokens, position + token.width⟩ with
        | error refusal =>
          rw [read] at next
          exact absurd next (by simp)
        | ok result =>
          rw [read] at next
          obtain rfl := Option.some.inj next
          exact ⟨token, tokens, rfl, sound, rfl, rfl, .inr ⟨rfl, _, read, rfl⟩⟩
      · exact fun same => sound same

/-- A token that has been read along is passed over. -/
theorem next?_passed {reader : Reader} {token : Token} {tokens : List Token} {skip position : Nat}
    (sound : token ≠ .dangling) : next? ⟨reader, token :: tokens, skip + 1, position⟩ =
      some ⟨reader, tokens, skip, position + token.width⟩ := by
  rw [next?]
  exact fun same => sound same

/-- A token that is read takes along those that it has read with it. -/
theorem next?_taking {reader next : Reader} {token : Token} {tokens : List Token} {cursor : Cursor}
    {position : Nat} (sound : token ≠ .dangling)
    (read : reader.readToken token position ⟨tokens, position + token.width⟩ =
      .ok (next, cursor)) :
    next? ⟨reader, token :: tokens, 0, position⟩ =
      some ⟨next, tokens, tokens.length - cursor.tokens.length, position + token.width⟩ := by
  rw [next?]
  · simp only [read]
  · exact fun same => sound same

/-- A token that is read by itself takes no token after it along. -/
theorem next?_read {reader next : Reader} {token : Token} {tokens : List Token} {position : Nat}
    (sound : token ≠ .dangling)
    (read : reader.readToken token position ⟨tokens, position + token.width⟩ =
      .ok (next, ⟨tokens, position + token.width⟩)) :
    next? ⟨reader, token :: tokens, 0, position⟩ =
      some ⟨next, tokens, 0, position + token.width⟩ := by
  rw [next?_taking sound read, Nat.sub_self]

/-- What has been read with an earlier token is passed over. -/
theorem reaches_passing (reader : Reader) {taken : List Token} (sound : .dangling ∉ taken)
    (rest : List Token) (position : Nat) : Reaches ⟨reader, taken ++ rest, taken.length, position⟩
      ⟨reader, rest, 0, position + (taken.map Token.width).sum⟩ := by
  induction taken generalizing position with
  | nil => exact .refl
  | cons token taken ih =>
    obtain ⟨first, others⟩ := List.ne_and_not_mem_of_not_mem_cons sound
    have later := ih others (position + token.width)
    rw [Nat.add_assoc] at later
    exact .head (next?_passed first.symm) later

/-- A token is read together with some of those after it. -/
theorem reaches_along {reader next : Reader} {token : Token} {taken rest : List Token}
    {cursor : Cursor} {position : Nat} (sound : .dangling ∉ token :: taken)
    (read : reader.readToken token position ⟨taken ++ rest, position + token.width⟩ =
      .ok (next, cursor)) (left : cursor.tokens = rest) :
    Reaches ⟨reader, token :: taken ++ rest, 0, position⟩
      ⟨next, rest, 0, position + ((token :: taken).map Token.width).sum⟩ := by
  obtain ⟨first, others⟩ := List.ne_and_not_mem_of_not_mem_cons sound
  have step := next?_taking first.symm read
  rw [left, List.length_append, Nat.add_sub_cancel] at step
  have later := reaches_passing next others rest (position + token.width)
  rw [Nat.add_assoc] at later
  exact .head step later

/-- A token moves the place on. -/
theorem position_lt {one two : Scan} (next : one.next? = some two) :
    one.position < two.position := by
  obtain ⟨token, tokens, -, -, -, moved, -⟩ := next?_cases next
  have some := token.width_pos
  omega

/-- Reading never goes back. -/
theorem Reaches.position_le {one two : Scan} (reaches : one.Reaches two) :
    one.position ≤ two.position := by
  induction reaches with
  | refl => exact Nat.le_refl _
  | tail _ next ih => exact Nat.le_trans ih (Nat.le_of_lt (position_lt next))

/-- The scan after a count of tokens, unless reading fails before. -/
def after : Nat → Scan → Option Scan
  | 0, scan => some scan
  | count + 1, scan => scan.next?.bind (after count)

/-- The scan after a count of tokens is reached. -/
theorem reaches_of_after {count : Nat} {one two : Scan} (found : one.after count = some two) :
    one.Reaches two := by
  induction count generalizing one with
  | zero =>
    obtain rfl := Option.some.inj found
    exact .refl
  | succ count ih =>
    obtain ⟨middle, next, later⟩ := Option.bind_eq_some_iff.1 found
    exact .head next (ih later)

/-- Of two scans that are reached, the earlier one reaches the later one. -/
theorem Reaches.of_le {origin one two : Scan} (first : origin.Reaches one)
    (second : origin.Reaches two) (before : one.position ≤ two.position) : one.Reaches two := by
  have alone : Relator.RightUnique fun one two : Scan => one.next? = some two := by
    intro one two other next next'
    exact Option.some.inj (next.symm.trans next')
  rcases first.total_of_right_unique alone second with ahead | back
  · exact ahead
  · rcases Relation.ReflTransGen.cases_head back with rfl | ⟨middle, next, later⟩
    · exact .refl
    · have moved := position_lt next
      have more := Reaches.position_le later
      omega

/-- The tokens of a scan are those of what is left of the source. -/
theorem tokens_eq {source : Text} {flags : Flags} {scan : Scan}
    (reaches : (start source flags).Reaches scan) :
    scan.tokens = Token.ofText (source.drop scan.position) := by
  induction reaches with
  | refl => rfl
  | tail _ next ih =>
    obtain ⟨token, tokens, cut, -, rest, moved, -⟩ := next?_cases next
    rw [ih] at cut
    rw [rest, moved, Token.ofText_drop cut, List.drop_drop]

/-- Reading from a scan on is reading from a scan that it reaches. -/
theorem readTokens_of_reaches {one two : Scan} (reaches : one.Reaches two) :
    Reader.readTokens one.tokens one.skip one.position one.reader =
      Reader.readTokens two.tokens two.skip two.position two.reader := by
  induction reaches with
  | refl => rfl
  | tail _ next ih =>
    obtain ⟨token, tokens, cut, sound, rest, moved, passed | ⟨skip, cursor, read, skipped⟩⟩ :=
      next?_cases next
    · rw [ih, cut, passed.1, passed.2, rest, moved, Reader.readTokens]
      exact fun same => sound same
    · rw [ih, cut, skip, Reader.readTokens, read, rest, moved, skipped]
      · rfl
      · exact fun same => sound same

end Scan

/-- A reader that has reached the end of a source stays as it is, and has no open parenthesis. -/
theorem Reader.eq_of_finish {last reader : Reader} (finished : last.finish = .ok reader) :
    reader = last ∧ last.outer = [] := by
  unfold finish at finished
  split at finished
  · next alone =>
    cases sound : last.checkAlphabets with
    | error refusal => simp [sound, bind, Except.bind] at finished
    | ok value =>
      rw [sound] at finished
      exact ⟨(Except.ok.inj finished).symm, List.isEmpty_iff.1 alone⟩
  · exact absurd finished (by simp)

end Regex

end RoutePattern
