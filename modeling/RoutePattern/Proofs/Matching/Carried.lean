import RoutePattern.Regex.Program

/-!
# What a matcher carries from its start to its ends

A matcher carries one condition on states to another one if, wherever it starts, it goes on only
from states as asked for, and fails only with places noted as asked for (`Matcher.Carries`). What is
built from matchers carries what they carry, as long as the conditions ask nothing of the place noted
last but that it may be noted (`Marks`).
-/
namespace RoutePattern.Regex

/-- An attempt that matches ends as asked for, and one that fails has noted a place as asked for. -/
def Attempt.Meets (noted : Place → Prop) (ends : State → Prop) : Attempt → Prop
  | .failed place => noted place
  | .matched state => ends state

namespace Attempt.Meets

variable {noted other : Place → Prop} {ends others : State → Prop} {attempt : Attempt}

/-- Another place noted for a failure. -/
theorem failAt (meets : attempt.Meets noted ends) {place : Place} (given : noted place) :
    (attempt.failAt place).Meets noted ends := by
  cases attempt with
  | failed other => exact given
  | matched state => exact meets

/-- Less may be asked for. -/
theorem imp (meets : attempt.Meets noted ends) (places : ∀ place, noted place → other place)
    (states : ∀ state, ends state → others state) : attempt.Meets other others := by
  cases attempt with
  | failed place => exact places place meets
  | matched state => exact states state meets

/-- Less may be asked for of a place that has been noted. -/
theorem mono (meets : attempt.Meets noted ends) (less : ∀ place, noted place → other place) :
    attempt.Meets other ends := meets.imp less fun _ => id

/-- An attempt that has matched. -/
theorem matched (meets : attempt.Meets noted ends) {ended : State}
    (found : attempt = .matched ended) : ends ended := by
  rw [found] at meets
  exact meets

/-- An attempt that has failed. -/
theorem failed (meets : attempt.Meets noted ends) {place : Place}
    (found : attempt = .failed place) : noted place := by
  rw [found] at meets
  exact meets

end Attempt.Meets

/-- A condition on states asks nothing of the place noted last but that it may be noted, and the
place of such a state may be. -/
structure Marks (noted : Place → Prop) (holds : State → Prop) : Prop where
  here {state : State} : holds state → noted state.toPlace
  last {state : State} : holds state → noted state.noted
  renote {state : State} : holds state → ∀ {place : Place}, noted place →
    holds { state with noted := place }

/-- The place of a state is noted. -/
theorem Marks.note {noted : Place → Prop} {holds : State → Prop} (marks : Marks noted holds)
    {state : State} (given : holds state) : holds state.note :=
  marks.renote given (marks.here given)

namespace Matcher

/-- A matcher that starts as asked for goes on as asked for, and fails as asked for where what comes
after it does. -/
def Carries (noted : Place → Prop) (before after : State → Prop) (matcher : Matcher) : Prop :=
  ∀ (ends : State → Prop) (next : Continuation),
    (∀ state, after state → (next state).Meets noted ends) →
      ∀ state, before state → (matcher next state).Meets noted ends

variable {noted : Place → Prop} {holds before middle after : State → Prop} {one two body : Matcher}

/-- Going on at once. -/
theorem carries_id : Carries noted holds holds fun next => next := fun _ _ follows => follows

/-- One matcher after the other. -/
theorem Carries.seq (first : one.Carries noted before middle)
    (second : two.Carries noted middle after) : (one.seq two).Carries noted before after :=
  fun ends next follows => first ends (two next) (second ends next follows)

/-- One character. -/
theorem carries_one (marks : Marks noted before) {accepts : Char → Bool}
    (step : ∀ state c rest, state.after = c :: rest → before state → after (state.step c rest)) :
    (Matcher.one accepts).Carries noted before after := by
  intro ends next follows state given
  unfold Matcher.one
  split
  · exact marks.last given
  · next c rest cut =>
    split
    · exact follows _ (step state c rest cut given)
    · exact marks.last given

/-- A condition on the place. -/
theorem carries_test (marks : Marks noted holds) (condition : State → Bool) :
    (Matcher.test condition).Carries noted holds holds := by
  intro ends next follows state given
  unfold Matcher.test
  split
  · exact follows state given
  · exact marks.last given

/-- A matcher that is tried if the text may go on as it asks. -/
theorem Carries.offered (marks : Marks noted before) (carries : body.Carries noted before after)
    (lead : Lead) : (Matcher.offered lead body).Carries noted before after := by
  intro ends next follows state given
  unfold Matcher.offered
  split
  · exact carries ends next follows _ (marks.note given)
  · exact marks.last given

/-- A choice. -/
theorem Carries.alt (marks : Marks noted before) (first : one.Carries noted before after)
    (second : two.Carries noted before after) : (one.alt two).Carries noted before after := by
  intro ends next follows state given
  have meets := first ends next follows state given
  unfold Matcher.alt
  cases attempt : one next state with
  | matched ended => exact meets.matched attempt
  | failed place => exact second ends next follows _ (marks.renote given (meets.failed attempt))

/-- The first match of a matcher. -/
theorem Carries.first (marks : Marks noted after) (carries : body.Carries noted before after)
    {state : State} (given : before state) : (body.first state).Meets noted after :=
  carries after (fun ended => .matched ended.note) (fun _ ended => marks.note ended) state given

/-- A matcher whose first match is final. -/
theorem Carries.atomic (starts : Marks noted before) (ending : Marks noted after)
    (carries : body.Carries noted before after) :
    (Matcher.atomic body).Carries noted before after := by
  intro ends next follows state given
  have meets := carries.first ending (starts.note given)
  unfold Matcher.atomic
  cases attempt : body.first state.note with
  | matched ended => exact follows ended (meets.matched attempt)
  | failed place => exact starts.here given

/-- A look from another place, which leaves the place as it is. -/
theorem meets_look (marks : Marks noted holds) {state : State} (given : holds state)
    {start : Option Place}
    (looks : ∀ place ∈ start, (body.first (state.goTo place)).Meets noted fun ended =>
      noted ended.noted ∧ holds { state with noted := ended.noted, slots := ended.slots })
    (negated : Bool) {ends : State → Prop} {next : Continuation}
    (follows : ∀ state, holds state → (next state).Meets noted ends) :
    (Matcher.look negated body start next state).Meets noted ends := by
  unfold Matcher.look
  cases start with
  | none =>
    cases negated with
    | true => exact follows state given
    | false => exact marks.last given
  | some place =>
    have meets := looks place rfl
    cases attempt : body.first (state.goTo place) with
    | matched ended =>
      have found := meets.matched attempt
      simp only [attempt]
      cases negated with
      | true => exact found.1
      | false => exact follows _ found.2
    | failed place =>
      have found := meets.failed attempt
      simp only [attempt]
      cases negated with
      | true => exact follows _ (marks.renote given found)
      | false => exact found

/-- The same characters again. -/
theorem carries_literally (marks : Marks noted holds)
    (step : ∀ state c rest, state.after = c :: rest → holds state → holds (state.step c rest))
    (flags : Flags) (text : Text) : (Matcher.literally flags text).Carries noted holds holds := by
  induction text with
  | nil => exact carries_id
  | cons c text ih => exact (carries_one marks step).seq ih

/-- What a group has matched, again. -/
theorem carries_again (marks : Marks noted holds)
    (step : ∀ state c rest, state.after = c :: rest → holds state → holds (state.step c rest))
    (flags : Flags) (index : Nat) : (Matcher.again flags index).Carries noted holds holds := by
  intro ends next follows state given
  unfold Matcher.again
  split
  · exact carries_literally marks step flags _ ends next follows state given
  · exact marks.last given

/-- One of two matchers. -/
theorem Carries.ifGroup (yes : one.Carries noted before after) (no : two.Carries noted before after)
    (index : Nat) : (Matcher.ifGroup index one two).Carries noted before after := by
  intro ends next follows state given
  unfold Matcher.ifGroup
  split
  · exact yes ends next follows state given
  · exact no ends next follows state given

end Matcher

end RoutePattern.Regex
