import RoutePattern.Proofs.Matching.Ends

/-!
# Matching without regard to groups

An expression that refers to no group ends and fails at the same places whatever the groups have
matched: from two states that differ in their groups alone its attempts differ in the groups alone
(`Matcher.Blind`, `Expr.blind`).
-/
namespace RoutePattern.Regex

/-- Two attempts end alike, but for what the groups have matched. -/
inductive Attempt.Near : Attempt → Attempt → Prop
  | failed (noted : Place) : Near (failed noted) (failed noted)
  | matched (state : State) (slots : List Slot) :
    Near (matched state) (matched { state with slots := slots })

/-- Going on in either way ends alike from states that differ in their groups alone. -/
def Near (next other : Continuation) : Prop :=
  ∀ (state : State) (slots : List Slot), (next state).Near (other { state with slots := slots })

/-- Attempts that end alike both fail or both match. -/
theorem Attempt.Near.split {one two : Attempt} (near : one.Near two) :
    (∃ noted, one = .failed noted ∧ two = .failed noted) ∨
      ∃ state slots, one = .matched state ∧ two = .matched { state with slots := slots } := by
  cases near with
  | failed noted => exact .inl ⟨noted, rfl, rfl⟩
  | matched state slots => exact .inr ⟨state, slots, rfl, rfl⟩

/-- Another place noted for a failure. -/
theorem Attempt.Near.failAt {one two : Attempt} (near : one.Near two) (place : Place) :
    (one.failAt place).Near (two.failAt place) := by
  cases near with
  | failed => exact .failed place
  | matched state slots => exact .matched state slots

namespace Matcher

/-- What the groups have matched decides nothing. -/
def Blind (matcher : Matcher) : Prop :=
  ∀ next other, Near next other → Near (matcher next) (matcher other)

variable {one two body : Matcher}

/-- Going on at once. -/
theorem blind_id : Blind fun next => next := fun _ _ near => near

/-- One character of a class. -/
theorem blind_one (accepts : Char → Bool) : (Matcher.one accepts).Blind := by
  intro next other near state slots
  unfold Matcher.one
  dsimp only
  split
  · exact .failed _
  · split
    · exact near _ _
    · exact .failed _

/-- A condition on the place. -/
theorem blind_test {condition : State → Bool}
    (same : ∀ (state : State) slots, condition { state with slots := slots } = condition state) :
    (Matcher.test condition).Blind := by
  intro next other near state slots
  simp only [Matcher.test, same]
  split
  · exact near state slots
  · exact .failed _

/-- One matcher after the other. -/
theorem Blind.seq (first : one.Blind) (second : two.Blind) : (one.seq two).Blind :=
  fun next other near => first _ _ (second next other near)

/-- A matcher that is tried if the text may go on as it asks. -/
theorem Blind.offered (blind : body.Blind) (lead : Lead) : (Matcher.offered lead body).Blind := by
  intro next other near state slots
  rw [Matcher.offered, Matcher.offered]
  split
  · exact blind next other near state.note slots
  · exact .failed _

/-- A choice. -/
theorem Blind.alt (first : one.Blind) (second : two.Blind) : (one.alt two).Blind := by
  intro next other near state slots
  obtain ⟨noted, failed, failed'⟩ | ⟨ended, slots, matched, matched'⟩ :=
    (first next other near state slots).split
  · simp only [Matcher.alt, failed, failed']
    exact second next other near { state with noted := noted } slots
  · simp only [Matcher.alt, matched, matched']
    exact .matched ended slots

/-- A group. -/
theorem Blind.group (blind : body.Blind) (index : Nat) : (Matcher.group index body).Blind := by
  intro next other near state slots
  have closes : Near (fun ended => next (ended.closeGroup index))
      fun ended => other (ended.closeGroup index) := fun ended slots =>
    near (ended.closeGroup index) _
  exact blind _ _ closes (state.openGroup index) _

/-- The first match of a matcher. -/
theorem Blind.first (blind : body.Blind) (state : State) (slots : List Slot) :
    (body.first state).Near (body.first { state with slots := slots }) :=
  blind _ _ (fun ended slots => .matched ended.note slots) state slots

/-- A matcher whose first match is final. -/
theorem Blind.atomic (blind : body.Blind) : (Matcher.atomic body).Blind := by
  intro next other near state slots
  obtain ⟨noted, failed, failed'⟩ | ⟨ended, slots', matched, matched'⟩ :=
    (blind.first state.note slots).split
  · simp only [Matcher.atomic, State.note] at failed failed' ⊢
    rw [failed, failed']
    exact .failed _
  · simp only [Matcher.atomic, State.note] at matched matched' ⊢
    rw [matched, matched']
    exact near ended slots'

/-- A look from another place. -/
theorem Blind.look (blind : body.Blind) (negated : Bool) {next other : Continuation}
    (near : Near next other) (start : Option Place) (state : State) (slots : List Slot) :
    (Matcher.look negated body start next state).Near
      (Matcher.look negated body start other { state with slots := slots }) := by
  cases start with
  | none =>
    cases negated
    · exact .failed _
    · exact near state slots
  | some place =>
    obtain ⟨noted, failed, failed'⟩ | ⟨ended, slots', matched, matched'⟩ :=
      (blind.first (state.goTo place) slots).split
    · simp only [Matcher.look, State.goTo] at failed failed' ⊢
      rw [failed, failed']
      cases negated
      · exact .failed _
      · exact near { state with noted := noted } slots
    · simp only [Matcher.look, State.goTo] at matched matched' ⊢
      rw [matched, matched']
      cases negated
      · exact near { state with noted := ended.noted, slots := ended.slots } slots'
      · exact .failed _

/-! ## Repetitions -/

/-- The first of several places from which all the rest matches. -/
theorem blind_fromPlaces (places : List Place) : (Matcher.fromPlaces places).Blind := by
  intro next other near state slots
  induction places generalizing state with
  | nil => exact .failed _
  | cons place places ih =>
    obtain ⟨noted, failed, failed'⟩ | ⟨ended, slots', matched, matched'⟩ :=
      (near (state.goTo place) slots).split
    · simp only [Matcher.fromPlaces, State.goTo] at failed failed' ⊢
      rw [failed, failed']
      exact ih { state with noted := noted }
    · simp only [Matcher.fromPlaces, State.goTo] at matched matched' ⊢
      rw [matched, matched']
      exact .matched ended slots'

/-- Repetitions of one character. -/
theorem blind_chars (charTest : CharTest) (least : Nat) (most : Option Nat) (appetite : Appetite)
    (lead : Lead) : (Matcher.chars charTest least most appetite lead).Blind := by
  intro next other near state slots
  -- What a run of characters notes is a place of the text, which does not depend on the slots.
  have noteLast (places : List Place) :
      (if charTest.listed then
          { state with slots := slots, noted := places.getLastD state.toPlace }
        else State.note { state with slots := slots }) =
        { (if charTest.listed then { state with noted := places.getLastD state.toPlace }
          else state.note) with slots := slots } := by
    split <;> rfl
  unfold Matcher.chars
  dsimp only
  split
  · exact .failed _
  cases appetite with
  | greedy =>
    dsimp only
    rw [noteLast]
    exact blind_fromPlaces _ next other near _ slots
  | possessive =>
    dsimp only
    rw [noteLast]
    split
    · next place _ =>
      exact near { (if charTest.listed then { state with noted := _ } else state.note) with
        toPlace := place } slots
    · exact .failed _
  | lazy =>
    dsimp only
    rw [noteLast]
    split
    · exact .failed _
    · obtain ⟨noted, failed, failed'⟩ | ⟨ended, slots', matched, matched'⟩ :=
        (blind_fromPlaces ((Place.run charTest.accepts most state.before state.after).drop least)
          next other near state slots).split
      · rw [failed, failed']
        exact .failed _
      · rw [matched, matched']
        exact .matched ended slots'

/-- As many repetitions as possible. -/
theorem Blind.greedy (blind : body.Blind) {next other : Continuation} (near : Near next other)
    (least : Nat) (most : Option Nat) (fuel count : Nat) (latest : Option Nat) :
    Near (Matcher.greedy body least most fuel count latest next)
      (Matcher.greedy body least most fuel count latest other) := by
  induction fuel generalizing count latest with
  | zero => exact fun state slots => .failed _
  | succ fuel ih =>
    intro state slots
    have further (latest : Option Nat) := blind _ _ (ih (count + 1) latest) state.note slots
    have stopping := (near state.note slots).failAt state.toPlace
    unfold Matcher.greedy
    dsimp only
    split
    · exact (further latest).failAt _
    · have allowed : mayRepeat most count latest { state with slots := slots } =
          mayRepeat most count latest state := rfl
      rw [allowed]
      cases mayRepeat most count latest state with
      | false => exact stopping
      | true =>
        obtain ⟨noted, failed, failed'⟩ | ⟨ended, slots', matched, matched'⟩ :=
          (further (some state.position)).split
        · simp only [State.note, if_true] at failed failed' ⊢
          rw [failed, failed']
          exact stopping
        · simp only [State.note, if_true] at matched matched' ⊢
          rw [matched, matched']
          exact .matched ended slots'

/-- As few repetitions as possible. -/
theorem Blind.lazy (blind : body.Blind) {next other : Continuation} (near : Near next other)
    (least : Nat) (most : Option Nat) (fuel count : Nat) (latest : Option Nat) :
    Near (Matcher.lazy body least most fuel count latest next)
      (Matcher.lazy body least most fuel count latest other) := by
  induction fuel generalizing count latest with
  | zero => exact fun state slots => .failed _
  | succ fuel ih =>
    intro state slots
    have further (latest : Option Nat) :=
      (blind _ _ (ih (count + 1) latest) state.note slots).failAt state.toPlace
    unfold Matcher.lazy
    dsimp only
    split
    · exact further latest
    · have allowed : mayRepeat most count latest { state with slots := slots } =
          mayRepeat most count latest state := rfl
      rw [allowed]
      obtain ⟨noted, failed, failed'⟩ | ⟨ended, slots', matched, matched'⟩ :=
        (near state.note slots).split
      · simp only [State.note] at failed failed' ⊢
        rw [failed, failed']
        cases mayRepeat most count latest state with
        | false => exact .failed _
        | true => exact further (some state.position)
      · simp only [State.note] at matched matched' ⊢
        rw [matched, matched']
        exact .matched ended slots'

/-- As many final repetitions as possible. -/
theorem Blind.exhaust (blind : body.Blind) (least : Nat) (most : Option Nat) (fuel count : Nat)
    (latest : Option Nat) : Near (Matcher.exhaust body least most fuel count latest)
      (Matcher.exhaust body least most fuel count latest) := by
  induction fuel generalizing count latest with
  | zero => exact fun state slots => .failed _
  -- Whether to go on is decided by counts and places, so both runs stop after the same repetition.
  | succ fuel ih =>
    intro state slots
    unfold Matcher.exhaust
    dsimp only
    split
    · obtain ⟨noted, failed, failed'⟩ | ⟨ended, slots', matched, matched'⟩ :=
        (blind.first state.note slots).split
      · simp only [State.note] at failed failed' ⊢
        rw [failed, failed']
        exact .failed _
      · simp only [State.note] at matched matched' ⊢
        rw [matched, matched']
        exact ih (count + 1) latest ended slots'
    · have allowed : mayRepeat most count latest { state with slots := slots } =
          mayRepeat most count latest state := rfl
      rw [allowed]
      cases mayRepeat most count latest state with
      | false => exact .matched state.note slots
      | true =>
        obtain ⟨noted, failed, failed'⟩ | ⟨ended, slots', matched, matched'⟩ :=
          (blind.first state.note slots).split
        · simp only [State.note, if_true] at failed failed' ⊢
          rw [failed, failed']
          exact .matched (state.goTo noted) slots
        · simp only [State.note, if_true] at matched matched' ⊢
          rw [matched, matched']
          exact ih (count + 1) (some state.position) ended slots'

/-- Repetitions of a matcher. -/
theorem Blind.loop (blind : body.Blind) (least : Nat) (most : Option Nat) (appetite : Appetite)
    (groups : Option Nat) : (Matcher.loop least most appetite groups body).Blind := by
  intro next other near state slots
  unfold Matcher.loop
  dsimp only
  cases appetite with
  | greedy => exact blind.greedy near _ _ _ _ _ state slots
  | lazy => exact blind.lazy near _ _ _ _ _ state slots
  | possessive =>
    dsimp only
    obtain ⟨noted, failed, failed'⟩ | ⟨ended, slots', matched, matched'⟩ :=
      (blind.exhaust (required least groups state.toPlace)
        (most.map (· - (least - required least groups state.toPlace)))
        (required least groups state.toPlace + state.position + state.after.length + 2) 0 none state
        slots).split
    · rw [failed, failed']
      exact .failed _
    · rw [matched, matched']
      exact near ended slots'

end Matcher

/-- An expression that refers to no group is matched without regard to what the groups have
matched. -/
theorem Expr.blind {expr : Expr} (free : expr.refersBack = false) (flags : Flags) (lead : Lead) :
    (expr.matcher flags lead).Blind := by
  induction expr generalizing flags lead with
  | empty => exact Matcher.blind_id
  | char code => exact Matcher.blind_one _
  | notChar code => exact Matcher.blind_one _
  | any => exact Matcher.blind_one _
  | set negated items => exact Matcher.blind_one _
  | anchor place => exact Matcher.blind_test fun state slots => by cases place <;> rfl
  | seq first second one two =>
    obtain ⟨one', two'⟩ := Bool.or_eq_false_iff.1 free
    exact (one one' _ _).seq (two two' _ _)
  | alt first second one two =>
    obtain ⟨one', two'⟩ := Bool.or_eq_false_iff.1 free
    refine ((one one' _ _).offered _).alt ?_
    split
    · exact two two' _ _
    · exact (two two' _ _).offered _
  | group index body ih => exact (ih free _ _).group index
  | flagged change body ih => exact ih free _ _
  | atomic body ih => exact (ih free _ _).atomic
  | ahead negated body ih =>
    exact fun next other near state slots =>
      (ih free _ _).look negated near (some state.toPlace) state slots
  | behind negated width body ih =>
    exact fun next other near state slots =>
      (ih free _ _).look negated near (state.back? width.least) state slots
  | loop least most appetite body ih =>
    rw [Expr.matcher]
    split
    · exact Matcher.blind_chars _ _ _ _ _
    · exact (ih free _ _).loop _ _ _ _
  | again index => exact absurd free Bool.noConfusion
  | ifGroup index yes no => exact absurd free Bool.noConfusion

end RoutePattern.Regex
