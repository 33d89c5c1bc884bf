import RoutePattern.Proofs.Reading.LexedToken

/-!
# Sources as rows of lexemes

A source that names no group and changes no flag is read lexeme by lexeme, up to its end
(`Lexed`, `lexed_of_readTokens`). What holds of every scan on the way holds in front of each
lexeme, so that a property of the source follows by induction on its lexemes.
-/
namespace RoutePattern.Regex

/-- The tokens of a lexeme hold no backslash with nothing after it. -/
theorem Lexeme.Spells.sound {left tokens : List Token} {lexeme : Lexeme}
    (spells : lexeme.Spells left tokens) : .dangling ∉ tokens := by
  cases spells with
  | part _ _ inert => exact fun found => inert _ found (by simp)
  | repetition _ _ _ _ inert => exact fun found => inert _ found (by simp)
  | set _ _ sound => simpa using sound
  | comment sound => simpa using sound
  | opening head => simp
  | bar => simp
  | capture => simp
  | closing => simp

/-- No open group passes over blanks and comments. -/
def Reader.IsShown (reader : Reader) : Prop :=
  ∀ frame ∈ reader.frame :: reader.outer, frame.verbose = false

/-- A lexeme opens no group that passes over blanks and comments. -/
theorem Reader.IsShown.act {reader next : Reader} {position : Nat} {lexeme : Lexeme}
    (shown : reader.IsShown) (acts : lexeme.act position reader = some next) : next.IsShown := by
  obtain ⟨frame, outer⟩ := List.forall_mem_cons.1 shown
  cases lexeme with
  | part expr =>
    obtain rfl := Option.some.inj acts
    exact List.forall_mem_cons.2 ⟨frame, outer⟩
  | repetition least most appetite =>
    obtain ⟨item, items, -, -, rfl⟩ := Lexeme.act_repetition_eq.1 acts
    exact List.forall_mem_cons.2 ⟨frame, outer⟩
  | bar =>
    obtain ⟨-, rfl⟩ := Lexeme.act_bar_eq.1 acts
    exact List.forall_mem_cons.2 ⟨frame, outer⟩
  | opening head =>
    obtain rfl := Option.some.inj acts
    cases head <;> exact List.forall_mem_cons.2 ⟨frame, shown⟩
  | capture =>
    obtain rfl := Option.some.inj acts
    exact List.forall_mem_cons.2 ⟨frame, shown⟩
  | closing =>
    obtain ⟨outermost, others, inside, rfl⟩ := Lexeme.act_closing_eq.1 acts
    rw [inside] at outer
    exact List.forall_mem_cons.2 (List.forall_mem_cons.1 outer)
  | comment =>
    obtain rfl := Option.some.inj acts
    exact shown

/-- From a reader in front of some tokens on, reading goes lexeme by lexeme up to the last reader,
and the scan in front of each lexeme has a property. -/
inductive Lexed (holds : Scan → Prop) (last : Reader) : Reader → Nat → List Token → Prop
  | done {position : Nat} (closed : last.outer = []) (here : holds ⟨last, [], 0, position⟩) :
    Lexed holds last last position []
  | step {reader next : Reader} {position : Nat} {token : Token} {taken left : List Token}
    {lexeme : Lexeme} (spells : lexeme.Spells left (token :: taken))
    (acts : lexeme.act position reader = some next)
    (reads : lexeme.IsFree → ∀ rest, BeginAlike rest left → lexeme.IsRead token taken rest)
    (here : holds ⟨reader, token :: taken ++ left, 0, position⟩)
    (later : Lexed holds last next (position + ((token :: taken).map Token.width).sum) left) :
    Lexed holds last reader position (token :: taken ++ left)

/-- Tokens that are read to their end are read lexeme by lexeme, if every parenthesis with a
question mark is one that lexemes know. -/
theorem lexed_of_readTokens {holds : Scan → Prop} {reader last : Reader} {tokens : List Token}
    {position : Nat} (read : reader.readTokens tokens 0 position = .ok last)
    (shown : reader.IsShown)
    (signed : ∀ scan, holds scan → scan.skip = 0 →
      Token.HasSign ('#' :: groupSigns) scan.tokens = true)
    (every : ∀ scan, Scan.Reaches ⟨reader, tokens, 0, position⟩ scan → holds scan) :
    Lexed holds last reader position tokens := by
  -- A lexeme is several tokens, so the induction is on their number and not on the list.
  induction count : tokens.length using Nat.strong_induction_on
    generalizing reader tokens position with
  | _ count ih =>
  cases tokens with
  | nil =>
    rw [Reader.readTokens] at read
    obtain ⟨rfl, closed⟩ := Reader.eq_of_finish read
    exact .done closed (every _ .refl)
  | cons token tokens =>
    have here := every _ .refl
    by_cases dangling : token = .dangling
    · subst dangling
      exact absurd read (by simp [Reader.readTokens])
    obtain ⟨⟨next, cursor⟩, tokenRead, -⟩ :
        ∃ result, reader.readToken token position ⟨tokens, position + token.width⟩ = .ok result ∧
          Reader.readTokens tokens (tokens.length - result.2.tokens.length)
            (position + token.width) result.1 = .ok last := by
      rw [Reader.readTokens] at read
      · exact exists_of_bind read
      · exact dangling
    obtain ⟨lexeme, taken, rfl, spells, acts, reads⟩ :=
      Reader.lexes_readToken (shown _ (List.mem_cons_self ..)) (signed _ here rfl) tokenRead
    have reaches := Scan.reaches_along spells.sound tokenRead rfl
    refine .step spells acts reads here (ih _ ?_ ?_ (shown.act acts) (fun scan later => ?_) rfl)
    · rw [← count, List.length_cons, List.length_append]
      omega
    · rw [← read]
      exact (Scan.readTokens_of_reaches reaches).symm
    · exact every scan (reaches.trans later)

/-- Tokens that are read lexeme by lexeme hold no backslash with nothing after it. -/
theorem Lexed.sound {holds : Scan → Prop} {last reader : Reader} {position : Nat}
    {tokens : List Token} (run : Lexed holds last reader position tokens) : .dangling ∉ tokens := by
  induction run with
  | done => exact List.not_mem_nil
  | step spells _ _ _ _ ih => exact fun found => (List.mem_append.1 found).elim spells.sound ih

/-- In the end no group is open. -/
theorem Lexed.closed {holds : Scan → Prop} {last reader : Reader} {position : Nat}
    {tokens : List Token} (run : Lexed holds last reader position tokens) : last.outer = [] := by
  induction run with
  | done closed => exact closed
  | step _ _ _ _ _ ih => exact ih

/-- A source that compiles is read lexeme by lexeme. -/
theorem lexed_of_compile {holds : Scan → Prop} {source : Text} {program : Program}
    (compiled : Program.compile source .none = .ok program)
    (signed : ∀ scan, holds scan → scan.skip = 0 →
      Token.HasSign ('#' :: groupSigns) scan.tokens = true)
    (every : ∀ scan, (Scan.start source .none).Reaches scan → holds scan) :
    ∃ last, Program.ofReader source last = .ok program ∧
      Lexed holds last (Reader.start .none) 0 (Token.ofText source) := by
  obtain ⟨last, read, made⟩ := exists_of_bind compiled
  have shown : (Reader.start .none).IsShown := List.forall_mem_singleton.2 rfl
  exact ⟨last, made, lexed_of_readTokens read shown signed every⟩

/-! ## All scans of a source -/

/-- The scans that are reached over no more than a count of tokens. -/
def Scan.trace : (count : Nat) → Scan → List Scan
  | 0, scan => [scan]
  | count + 1, scan => scan :: (scan.next?.elim [] (trace count))

/-- Every scan that is reached is met on the way over all tokens. -/
theorem Scan.mem_trace {one two : Scan} (reaches : one.Reaches two) {count : Nat}
    (far : one.tokens.length ≤ count) : two ∈ one.trace count := by
  induction reaches using Relation.ReflTransGen.head_induction_on generalizing count with
  | refl => cases count <;> exact List.mem_cons_self ..
  | head next _ ih =>
    obtain ⟨token, tokens, cut, -, rest, -⟩ := next?_cases next
    rw [cut, List.length_cons] at far
    obtain ⟨count, rfl⟩ := Nat.exists_eq_add_of_le' (Nat.le_trans (Nat.succ_pos _) far)
    refine List.mem_cons_of_mem _ ?_
    rw [next]
    exact ih (rest ▸ Nat.le_of_succ_le_succ far)

/-- What holds of the scans over all tokens of a source holds of all that are reached. -/
theorem Scan.forall_of_trace {holds : Scan → Prop} {source : Text} {flags : Flags}
    (every : ∀ scan ∈ (Scan.start source flags).trace (Token.ofText source).length, holds scan)
    (scan : Scan) (reaches : (Scan.start source flags).Reaches scan) : holds scan :=
  every scan (mem_trace reaches (Nat.le_refl _))

end RoutePattern.Regex
