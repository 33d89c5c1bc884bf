import RoutePattern.Proofs.Extent.Stop
import RoutePattern.Proofs.Reading.Endings.Run

/-!
# What a route may end with

A route is a front and what the options ask for after it: a short text whose parts and their ends
are known (`Closing`). One such text can be put in the place of another one if it matches wherever
the other one does (`Closing.Allows`). The end that a route has without being strict can be put in
the place of the strict one (`Closing.allows_final`), and the end of a segment in the place of the
end of the text (`Closing.allows_last`).
-/
namespace RoutePattern

open Regex
open Regex.Reader (Reads segmentEndExpr)

/-- A text that a route may end with, the parts that it is read as and their ends. -/
structure Closing (flags : Flags) where
  source : Text
  parts : List Expr
  ends : List (Spot → List Spot)
  isEnding : IsEnding source
  reads : Reads source 0 fun _ => parts
  lists : List.Forall₂ (fun part ends => part.Lists flags ends) parts ends

/-- What the options ask for in front of the very end of a route. -/
def slashSource (options : Options) (slash : Bool) : Text :=
  if !options.strict then optionalSlash else if slash then ['/'] else []

namespace Closing

/-- Nothing. -/
def nothing (flags : Flags) : Closing flags where
  source := []
  parts := []
  ends := []
  isEnding := by decide
  reads := .nil
  lists := .nil

/-- What comes last in a route, after all slashes. -/
def anchor (options : Options) : Closing options.flags where
  source := if options.whole then ['$'] else segmentEnd
  parts := [if options.whole then .anchor .lineEnd else segmentEndExpr]
  ends := [closingEnds options]
  isEnding := by cases options.whole <;> decide
  reads := by
    cases options.whole with
    | false => exact Reads.segmentEnd
    | true => exact Reads.wholeEnd
  lists := .cons (lists_closing options) .nil

/-- What the options ask for at the very end of a route. -/
def last (options : Options) (slash : Bool) : Closing options.flags :=
  if !options.whole && (options.strict && slash) then nothing options.flags else anchor options

/-- What the options ask for after the front of a route. -/
def final (options : Options) (slash : Bool) : Closing options.flags where
  source := finalSource options slash
  parts := finalParts options slash
  ends := finalEnds options slash
  isEnding := by
    unfold finalSource tailSource
    cases options.strict <;> cases options.whole <;> cases slash <;> decide
  reads := reads_final options slash
  lists := lists_finalParts options slash

/-- The end of a route is what stands in front of its very end and this very end. -/
theorem source_final (options : Options) (slash : Bool) :
    (final options slash).source = slashSource options slash ++ (last options slash).source := by
  obtain ⟨sensitive, strict, whole, converters⟩ := options
  cases strict <;> cases whole <;> cases slash <;> rfl

variable {flags : Flags}

/-- The second text matches wherever the first one does, and no comment swallows both. -/
structure Allows (one two : Closing flags) : Prop where
  apart : Apart one.source two.source
  kept : ∀ spot, chain one.ends spot ≠ [] → chain two.ends spot ≠ []

/-- Where a route may end with one text, it may end with a text that is allowed in its place. -/
theorem Allows.precedes {one two : Closing flags} (allows : one.Allows two) (text : Text) :
    ∃ ends, Precedes text ends ((Expr.sequence one.parts).matcher flags .undecided).first
      ((Expr.sequence two.parts).matcher flags .undecided).first :=
  ⟨_, (Expr.lists_sequence one.lists .undecided).precedes
    (Expr.below_matcher (Expr.widens_refl _ _) text _ _)
    (Expr.lists_sequence two.lists .undecided) allows.kept⟩

end Closing

/-! ## Ends -/

variable {options : Options} {spot middle : Spot}

/-- A row of parts has an end where the first part has one from which the others go on. -/
theorem chain_cons_ne_nil {ends : Spot → List Spot} {later : List (Spot → List Spot)} :
    chain (ends :: later) spot ≠ [] ↔ ∃ middle ∈ ends spot, chain later middle ≠ [] := by
  rw [chain, Ne, List.flatMap_eq_nil_iff]
  push Not
  exact Iff.rfl

/-- Nothing has to be taken of an optional slash. -/
theorem mem_lastSlashEnds (options : Options) (spot : Spot) : spot ∈ lastSlashEnds options spot :=
  List.mem_append_right _ (List.mem_singleton_self spot)

/-- A place is the end of a segment if a slash comes next or the text ends there. -/
theorem closingEnds_ne_nil (partly : options.whole = false)
    (found : charEnds options.flags '/'.toNat spot ≠ [] ∨ lineEndEnds spot ≠ []) :
    closingEnds options spot ≠ [] := by
  rw [closingEnds_open partly]
  have some : charEnds options.flags '/'.toNat spot ++ lineEndEnds spot ≠ [] := by
    simpa [or_iff_not_imp_left] using found
  obtain ⟨ended, others, cut⟩ := List.exists_cons_of_ne_nil some
  rw [cut]
  exact List.cons_ne_nil _ _

namespace Closing

/-- The end of a segment, or nothing after a slash that has to stay, is allowed in the place of the
end of the text. -/
theorem allows_last (options : Options) (slash : Bool) :
    (last { options with whole := true } slash).Allows
      (last { options with whole := false } slash) := by
  have whole : last { options with whole := true } slash = anchor { options with whole := true } :=
    rfl
  rw [whole]
  refine ⟨.of_not_mem (show ')' ∉ ['$'] by decide), fun spot found => ?_⟩
  have atEnd : lineEndEnds spot ≠ [] := by
    obtain ⟨ended, member, -⟩ := chain_cons_ne_nil.1 found
    rw [closingEnds_whole rfl] at member
    exact List.ne_nil_of_mem member
  unfold last
  split
  · exact List.cons_ne_nil _ _
  · have closes : closingEnds { options with whole := false } spot ≠ [] :=
      closingEnds_ne_nil rfl (.inr atEnd)
    rw [anchor, chain_singleton]
    exact closes

/-- What a route ends with if it need not be strict is allowed in the place of its strict end. -/
theorem allows_final (options : Options) (slash : Bool) :
    (final { options with strict := true } slash).Allows
      (final { options with strict := false } slash) := by
  have apart : Apart (finalSource { options with strict := true } slash)
      (finalSource { options with strict := false } slash) := by
    obtain ⟨sensitive, strict, whole, converters⟩ := options
    cases slash with
    | true =>
      cases whole with
      | false => exact .of_not_mem (show ')' ∉ ['/'] by decide)
      | true => exact .of_not_mem (show ')' ∉ ['/', '$'] by decide)
    | false =>
      cases whole with
      | false => exact fun _ => ⟨rfl, _, rfl⟩
      | true => exact .of_not_mem (show ')' ∉ ['$'] by decide)
  refine ⟨apart, fun spot found => ?_⟩
  have loose : (final { options with strict := false } slash).ends =
    [lastSlashEnds options, closingEnds options] := rfl
  rw [loose, chain_cons_ne_nil, chain_singleton]
  have skipped := mem_lastSlashEnds options spot
  -- Without a slash to keep both ends ask for the same. With one, the loose end may stand in front
  -- of this slash, and takes it where the whole text has to end.
  cases slash with
  | false =>
    have strict : (final { options with strict := true } false).ends = [closingEnds options] := rfl
    rw [strict, chain_singleton] at found
    exact ⟨spot, skipped, found⟩
  | true =>
    cases whole : options.whole with
    | false =>
      have strict : (final { options with strict := true } true).ends =
          [charEnds options.flags '/'.toNat] := by
        simp only [final, finalEnds, whole]
        rfl
      rw [strict, chain_singleton] at found
      exact ⟨spot, skipped, closingEnds_ne_nil whole (.inl found)⟩
    | true =>
      have strict : (final { options with strict := true } true).ends =
          [charEnds options.flags '/'.toNat, lineEndEnds] := by
        simp only [final, finalEnds, whole]
        rfl
      rw [strict] at found
      obtain ⟨ended, member⟩ := List.exists_mem_of_ne_nil _ found
      obtain ⟨middle, there⟩ := @exists_of_mem_chain [charEnds options.flags '/'.toNat] _ _ _ member
      obtain ⟨rfl, -⟩ := mem_lineEndEnds there
      refine ⟨ended, List.mem_append_left _ member, ?_⟩
      rw [closingEnds_whole whole]
      exact List.ne_nil_of_mem there

end Closing

end RoutePattern
