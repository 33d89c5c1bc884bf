import RoutePattern.Proofs.Reading.EachGroup
import RoutePattern.Proofs.Reading.Enclosed

/-!
# The group of two parentheses

Where a group is closed, a scan has stood in front of the parenthesis that opened it
(`Captures.exists_facing`). So if the text between two parentheses of a group is read as parts by
itself, these parts are the body of the group in the whole expression, and no other group has its
number (`Captures.guards`).
-/
namespace RoutePattern.Regex.Scan

open Reader (Reads)

variable {source : Text} {flags : Flags} {scan final : Scan}

/-- Every open group begins before the place that has been reached. -/
theorem start_lt_of_reaches (reaches : (start source flags).Reaches scan)
    (further : 0 < scan.position) :
    ∀ frame ∈ scan.reader.frame :: scan.reader.outer, frame.start < scan.position := by
  induction reaches with
  | refl => exact absurd further (Nat.lt_irrefl 0)
  | @tail one two earlier next ih =>
    have moved := position_lt next
    have before : ∀ frame ∈ one.reader.frame :: one.reader.outer, frame.start < two.position := by
      intro frame found
      rcases Nat.eq_zero_or_pos one.position with zero | positive
      -- At the very start only the whole is open, which begins there.
      · rcases Relation.ReflTransGen.cases_tail earlier with same | ⟨middle, -, step⟩
        · rw [same] at found
          rw [List.mem_singleton.1 found]
          exact further
        · have later := position_lt step
          omega
      · exact Nat.lt_trans (ih positive frame found) moved
    obtain ⟨innermost, around⟩ := List.forall_mem_cons.1 before
    rcases moves_of_next? next with same | moves
    · rw [same]
      exact before
    · cases moves with
      | stays outer _ start =>
        exact List.forall_mem_cons.2 ⟨start ▸ innermost, outer ▸ around⟩
      | opens outer start =>
        exact List.forall_mem_cons.2 ⟨start ▸ moved, outer ▸ before⟩
      | captures outer start =>
        exact List.forall_mem_cons.2 ⟨start ▸ moved, outer ▸ before⟩
      | closes outer _ start =>
        rw [outer] at around
        obtain ⟨second, others⟩ := List.forall_mem_cons.1 around
        exact List.forall_mem_cons.2 ⟨start ▸ second, others⟩

/-- A scan has stood in front of the parenthesis of every open group that remembers what it
matches. -/
theorem exists_facing_of_open (reaches : (start source flags).Reaches scan) :
    ∀ frame ∈ scan.reader.frame :: scan.reader.outer, frame.isCapture = true →
      ∃ reader, (start source flags).Reaches
        (facing reader frame.start (source.drop frame.start)) := by
  induction reaches with
  | refl =>
    intro frame found
    rw [List.mem_singleton.1 found]
    exact fun wrong => absurd wrong Bool.false_ne_true
  | @tail one two earlier next ih =>
    obtain ⟨innermost, around⟩ := List.forall_mem_cons.1 ih
    obtain ⟨token, tokens, -, -, -, -, passed | ⟨skip, cursor, read, -⟩⟩ := next?_cases next
    · rw [passed.2]
      exact ih
    · have moves := (Reader.readToken_moves ..).holds_of_ok _ read
      cases moves with
      | stays outer kind start =>
        refine List.forall_mem_cons.2 ⟨?_, outer ▸ around⟩
        rw [start, Frame.isCapture, kind]
        exact innermost
      | opens outer _ _ plain =>
        exact List.forall_mem_cons.2 ⟨fun wrong => absurd (plain.symm.trans wrong)
          Bool.false_ne_true, outer ▸ ih⟩
      | captures outer start =>
        refine List.forall_mem_cons.2 ⟨fun _ => ⟨one.reader, ?_⟩, outer ▸ ih⟩
        rw [start, ← eq_facing earlier skip]
        exact earlier
      -- A closed group leaves groups open that were open before.
      | closes outer kind start =>
        rw [outer] at around
        obtain ⟨second, others⟩ := List.forall_mem_cons.1 around
        refine List.forall_mem_cons.2 ⟨?_, others⟩
        rw [start, Frame.isCapture, kind]
        exact second

/-- A scan has stood in front of the opening parenthesis of a group that is closed. -/
theorem Captures.exists_facing {number : Nat} {places : Nat × Nat}
    (captures : Captures source flags number places) :
    ∃ reader, (start source flags).Reaches (facing reader places.1 (source.drop places.1)) := by
  obtain ⟨closing, closes, -, -, -, here, kind⟩ := captures
  rw [← here]
  exact exists_facing_of_open closes _ (List.mem_cons_self ..) (by rw [Frame.isCapture, kind])

/-- Every scan that is reached reaches the end. -/
theorem Reaches.to_end {origin one : Scan} (first : origin.Reaches one)
    (last : origin.Reaches final) (done : final.tokens = []) : one.Reaches final := by
  rcases Nat.le_total one.position final.position with before | behind
  · exact first.of_le last before
  · rcases Relation.ReflTransGen.cases_head (last.of_le first behind) with same | ⟨two, next, -⟩
    · rw [same]
    · obtain ⟨token, tokens, cut, -⟩ := next?_cases next
      rw [done] at cut
      exact absurd cut (List.cons_ne_nil _ _).symm

/-- If the text between the parentheses of a group is read as parts by itself, these are the body of
the group, and no other group has its number. -/
theorem Captures.guards {text rest : Text} {number position : Nat} {parts : List Expr}
    (captures : Captures source flags number (position, position + 1 + text.length))
    (cut : source.drop position = '(' :: (text ++ ')' :: rest)) (further : 0 < position)
    (reads : Reads text 0 fun _ => parts) (bare : text.head? ≠ some '?')
    (free : (Expr.sequence parts).groupCount = 0)
    (last : (start source flags).Reaches final) (done : final.tokens = []) :
    0 < number ∧ final.reader.Guards fun index body =>
      0 < index ∧ (index = number → body = .sequence parts) := by
  obtain ⟨reader, faces⟩ := captures.exists_facing
  rw [cut] at faces
  obtain ⟨rfl, -⟩ := exists_encloses faces (start_lt_of_reaches faces further) captures
  obtain ⟨width, closes⟩ := reads.reaches_group bare reader position
  have later := Reaches.to_end (faces.trans (closes rest)) last done
  have counts : reader.Counts := faces.counts (Reader.counts_start flags)
  have earlier : reader.Guards fun index body =>
      0 < index ∧ (index = reader.widths.length + 1 → body = .sequence parts) :=
    counts.mono fun index body ⟨positive, bound⟩ => ⟨positive, fun same => by omega⟩
  have guards : (reader.widen [width]).Guards fun index body =>
      0 < index ∧ (index = reader.widths.length + 1 → body = .sequence parts) :=
    ⟨earlier.closed, earlier.unclosed⟩
  refine ⟨Nat.succ_pos _, (later.guards (guards.push ?_) fun index body beyond => ?_).1⟩
  · exact ⟨⟨Nat.succ_pos _, fun _ => rfl⟩, Expr.eachGroup_of_free free⟩
  · have wider : (reader.widen [width]).widths.length = reader.widths.length + 1 := by
      rw [Reader.widths_widen, List.length_append, List.length_singleton]
    have more : reader.widths.length + 1 < index := wider ▸ beyond
    exact ⟨by omega, fun same => by omega⟩

end RoutePattern.Regex.Scan
