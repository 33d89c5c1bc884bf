import RoutePattern.Proofs.Matching.Comparison.Matcher
import RoutePattern.Proofs.Matching.Repetition
import RoutePattern.Proofs.Reading.EachGroup

/-!
# What holds of a group however it is reached

An expression can try a group anywhere and as often as it likes: in a repetition, in a look to
either side, in a branch that is given up later. If every way of going through a group leaves behind
what is asked for of the groups, then so does the whole expression (`Expr.upholds_matcher`). What a
repetition of one character leaves in its group is a row of characters that are accepted
(`upholds_group_single`).
-/
namespace RoutePattern.Regex

/-- A state inside a text that has matched with its groups what is asked for. -/
structure Upheld (text : Text) (kept : List Slot → Prop) (state : State) : Prop where
  inside : Matcher.Inside text state
  slots : kept state.slots

namespace Upheld

variable {text : Text} {kept : List Slot → Prop} {state : State}

/-- Any place of the text may be noted. -/
theorem marks (text : Text) (kept : List Slot → Prop) : Marks (·.text = text) (Upheld text kept) where
  here upheld := upheld.inside.1
  last upheld := upheld.inside.2
  renote upheld _ noted := ⟨⟨upheld.inside.1, noted⟩, upheld.slots⟩

/-- One character further. -/
theorem step (upheld : Upheld text kept state) {c : Char} {rest : Text}
    (here : state.after = c :: rest) : Upheld text kept (state.step c rest) := by
  have inside := upheld.inside.1
  rw [Place.text, here] at inside
  refine ⟨⟨?_, upheld.inside.2⟩, upheld.slots⟩
  simpa [State.step, Place.text] using inside

/-- Another place of the text. -/
theorem goTo (upheld : Upheld text kept state) {place : Place} (inside : place.text = text) :
    Upheld text kept (state.goTo place) := ⟨⟨inside, inside⟩, upheld.slots⟩

end Upheld

namespace Matcher

/-- Whatever holds of the groups where a matcher starts holds of them where it ends. -/
def Upholds (text : Text) (kept : List Slot → Prop) (matcher : Matcher) : Prop :=
  matcher.Carries (·.text = text) (Upheld text kept) (Upheld text kept)

variable {text : Text} {kept : List Slot → Prop} {body : Matcher}

/-- One character. -/
theorem upholds_one (accepts : Char → Bool) : (Matcher.one accepts).Upholds text kept :=
  carries_one (Upheld.marks text kept) fun _ _ _ here upheld => upheld.step here

/-- A look from another place of the text. -/
theorem Upholds.look (upholds : body.Upholds text kept) {state : State}
    (upheld : Upheld text kept state) (start : Option Place)
    (inside : ∀ place ∈ start, place.text = text) (negated : Bool) {ends : State → Prop}
    {next : Continuation}
    (follows : ∀ state, Upheld text kept state → (next state).Meets (·.text = text) ends) :
    (Matcher.look negated body start next state).Meets (·.text = text) ends := by
  refine meets_look (Upheld.marks ..) upheld (fun place here => ?_) negated follows
  have meets := upholds.first (Upheld.marks ..) (upheld.goTo (inside place here))
  exact meets.imp (fun _ => id) fun ended found =>
    ⟨found.inside.2, ⟨upheld.inside.1, found.inside.2⟩, found.slots⟩

/-- Repetitions of one character. -/
theorem upholds_chars (charTest : CharTest) (least : Nat) (most : Option Nat) (appetite : Appetite)
    (lead : Lead) : (Matcher.chars charTest least most appetite lead).Upholds text kept := by
  intro ends next follows state upheld
  have inside (limit : Option Nat) (place : Place)
      (found : place ∈ Place.run charTest.accepts limit state.before state.after) :
      place.text = text := (Place.text_of_mem_run found).trans upheld.inside.1
  refine meets_chars inside upheld.inside.2 fun place found last noted => ?_
  exact follows _ ⟨⟨inside most place (List.mem_of_mem_drop found), noted⟩, upheld.slots⟩

/-- Repetitions of a matcher. -/
theorem Upholds.loop (upholds : body.Upholds text kept) (least : Nat) (most : Option Nat)
    (appetite : Appetite) (groups : Option Nat) :
    (Matcher.loop least most appetite groups body).Upholds text kept := by
  refine Carries.loop (Upheld.marks text kept) upholds (fun _ state place upheld failed => ?_)
    least most groups
  have meets := upholds.first (Upheld.marks text kept) ((Upheld.marks text kept).note upheld)
  exact upheld.goTo (meets.failed failed)

end Matcher

/-- If each group of an expression leaves behind what is asked for, so does the expression. -/
theorem Expr.upholds_matcher {text : Text} {kept : List Slot → Prop} {holds : Nat → Expr → Prop}
    (group : ∀ index body flags, holds index body →
      (body.matcher flags .undecided).Upholds text kept →
        (Matcher.group index (body.matcher flags .undecided)).Upholds text kept)
    {expr : Expr} (each : expr.EachGroup holds) (flags : Flags) (lead : Lead) :
    (expr.matcher flags lead).Upholds text kept := by
  have marks := Upheld.marks text kept
  induction expr generalizing flags lead with
  | empty => exact Matcher.carries_id
  | char _ | notChar _ | any | set _ _ => exact Matcher.upholds_one _
  | anchor place => exact Matcher.carries_test marks _
  | again index =>
    exact Matcher.carries_again marks (fun _ _ _ here upheld => upheld.step here) flags index
  | group index body ih => exact group index body flags each.1 (ih each.2 flags .undecided)
  | seq first second one two => exact (one each.1 flags _).seq (two each.2 flags lead)
  | alt first second one two =>
    have later := two each.2 flags .undecided
    refine ((one each.1 flags .undecided).offered marks _).alt marks ?_
    split
    · exact later
    · exact later.offered marks _
  | ifGroup index yes no one two => exact (one each.1 flags _).ifGroup (two each.2 flags lead) index
  | flagged change body ih => exact ih each _ _
  | atomic body ih => exact (ih each flags .undecided).atomic marks marks
  -- The start of a look depends on the state, so the look is unfolded only up to there.
  | ahead negated body ih =>
    intro ends next follows state upheld
    refine Matcher.Upholds.look (ih each flags .undecided) upheld (some state.toPlace)
      (fun place here => ?_) negated follows
    obtain rfl := Option.some.inj here
    exact upheld.inside.1
  | behind negated width body ih =>
    intro ends next follows state upheld
    refine Matcher.Upholds.look (ih each flags .undecided) upheld (state.back? width.least)
      (fun place here => ?_) negated follows
    exact (Place.text_of_back? here).trans upheld.inside.1
  | loop least most appetite body ih =>
    unfold Expr.matcher
    split
    · exact Matcher.upholds_chars _ least most appetite lead
    · exact Matcher.Upholds.loop (ih each flags .undecided) least most appetite _

/-! ## One group -/

/-- The text of a group, if it has matched, is as asked for. -/
def Fits (text : Text) (fits : Text → Prop) (index : Nat) (slots : List Slot) : Prop :=
  ∀ slot, slots[index - 1]? = some slot → ∀ start stop, slot.span? = some (start, stop) →
    fits ((text.drop start).take (stop - start))

namespace Fits

variable {text : Text} {fits : Text → Prop} {index : Nat} {slots : List Slot}

/-- A group that has matched nothing yet. -/
theorem unset (text : Text) (fits : Text → Prop) (index count : Nat) :
    Fits text fits index (List.replicate count .unset) := by
  intro slot found start stop span
  rw [(List.getElem?_eq_some_iff.1 found).2.symm, List.getElem_replicate] at span
  exact absurd span (by simp [Slot.unset, Slot.span?])

/-- Another group is opened or closed. -/
theorem modify (kept : Fits text fits index slots) {other : Nat} (apart : other - 1 ≠ index - 1)
    (change : Slot → Slot) : Fits text fits index (slots.modify (other - 1) change) := by
  intro slot found
  rw [List.getElem?_modify_ne change slots apart] at found
  exact kept slot found

end Fits

variable {text : Text} {fits : Text → Prop}

/-- Another group leaves a group as it is. -/
theorem Matcher.Upholds.group {index other : Nat} {body : Matcher}
    (upholds : body.Upholds text (Fits text fits index)) (apart : other - 1 ≠ index - 1) :
    (Matcher.group other body).Upholds text (Fits text fits index) := by
  intro ends next follows state upheld
  refine upholds ends _ (fun ended found => ?_) _ ⟨upheld.inside, upheld.slots.modify apart _⟩
  exact follows _ ⟨found.inside, found.slots.modify apart _⟩

/-- The text between two places of a text. -/
theorem take_drop_position {place : Place} {taken rest : Text} (inside : place.text = text)
    (cut : place.after = taken ++ rest) :
    (text.drop place.position).take (place.position + taken.length - place.position) = taken := by
  have dropped : text.drop place.position = place.after := by
    rw [← inside, Place.text, Place.position, ← List.length_reverse, List.drop_left]
  rw [dropped, cut, Nat.add_sub_cancel_left, List.take_left]

/-- A group that is closed after a text has matched this text. -/
theorem Fits.closed {index : Nat} {state ended : State} {taken rest : Text}
    (inside : state.text = text) (cut : state.after = taken ++ rest)
    (place : ended.toPlace = ⟨taken.reverse ++ state.before, rest⟩)
    (slots : ended.slots = (state.openGroup index).slots) (all : fits taken) :
    Fits text fits index (ended.closeGroup index).slots := by
  intro slot own start stop span
  have position : ended.position = state.position + taken.length := by
    rw [place]
    simp [Place.position, Nat.add_comm]
  simp only [State.closeGroup, slots, State.openGroup, List.getElem?_modify_eq,
    Option.map_eq_map, Option.map_map, Option.map_eq_some_iff, position] at own
  obtain ⟨old, -, rfl⟩ := own
  have later : state.position ≤ state.position + taken.length := Nat.le_add_right ..
  have places : (Slot.mk (some state.position) (some (state.position + taken.length))).span? =
      some (state.position, state.position + taken.length) := if_pos later
  have same : (state.position, state.position + taken.length) = (start, stop) :=
    Option.some.inj (places.symm.trans span)
  obtain ⟨rfl, rfl⟩ := Prod.mk.inj same
  rwa [take_drop_position inside cut]

/-- A group around repetitions of one character has matched accepted characters, and no fewer than
the least count if this is one. -/
theorem Matcher.upholds_group_single (charTest : CharTest) (index : Nat)
    (all : ∀ taken, taken ≠ [] → (∀ c ∈ taken, charTest.accepts c = true) → fits taken)
    (appetite : Appetite) (lead : Lead) :
    (Matcher.group index (Matcher.chars charTest 1 none appetite lead)).Upholds text
      (Fits text fits index) := by
  intro ends next follows state upheld
  have here := upheld.inside.1
  refine meets_chars (fun limit place found => ?_) upheld.inside.2 fun place found last noted => ?_
  · exact (Place.text_of_mem_run found).trans here
  · obtain ⟨taken, rest, given, cut, accepted, rfl⟩ := Place.mem_drop_run_iff.1 found
    have ended := (Place.text_of_mem_run (List.mem_of_mem_drop found)).trans here
    exact follows _ ⟨⟨ended, noted⟩, Fits.closed here cut rfl rfl (all taken given accepted)⟩

end RoutePattern.Regex
