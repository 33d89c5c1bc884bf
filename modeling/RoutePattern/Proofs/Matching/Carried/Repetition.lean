import Mathlib.Data.List.Basic
import RoutePattern.Proofs.Matching.Carried

/-!
# What repetitions carry

A repetition of one character goes on from the places of a run (`meets_chars`), and a repetition of
another matcher carries what this matcher does. A possessive one also goes on from the place that was
noted last where one more repetition has failed, so that this place has to be as asked for
(`Matcher.Carries.loop`).
-/
namespace RoutePattern.Regex

/-- A run of characters begins where it starts. -/
theorem Place.mem_run_start (accepts : Char → Bool) (most : Option Nat) (place : Place) :
    place ∈ Place.run accepts most place.before place.after := by
  obtain ⟨before, after⟩ := place
  cases after with
  | nil => exact List.mem_singleton_self _
  | cons c after => exact List.mem_cons_self ..

/-- The last of several places that may all be noted. -/
theorem noted_getLastD {noted : Place → Prop} {places : List Place}
    (each : ∀ place ∈ places, noted place) {place : Place} (here : noted place) :
    noted (places.getLastD place) := by
  have found : places.getLastD place ∈ place :: places := List.getLastD_mem_cons
  rcases List.mem_cons.1 found with same | found
  · rw [same]
    exact here
  · exact each _ found

namespace Matcher

variable {noted : Place → Prop} {holds ends : State → Prop} {body : Matcher} {next : Continuation}
  {state : State}

/-! ## Repetitions of one character -/

/-- The first of several places from which all the rest matches. -/
theorem meets_fromPlaces {places : List Place}
    (follows : ∀ place ∈ places, (next (state.goTo place)).Meets noted ends)
    (last : noted state.noted) : (Matcher.fromPlaces places next state).Meets noted ends := by
  induction places generalizing state with
  | nil => exact last
  | cons place places ih =>
    obtain ⟨first, others⟩ := List.forall_mem_cons.1 follows
    unfold Matcher.fromPlaces
    cases attempt : next (state.goTo place) with
    | matched ended => exact first.matched attempt
    | failed noted => exact ih others (first.failed attempt)

/-- Repetitions of one character go on from the places of a run beyond the least count. -/
theorem meets_chars {charTest : CharTest} {least : Nat} {most : Option Nat} {appetite : Appetite}
    {lead : Lead}
    (inside : ∀ limit, ∀ place ∈ Place.run charTest.accepts limit state.before state.after,
      noted place)
    (last : noted state.noted)
    (follows : ∀ place ∈ (Place.run charTest.accepts most state.before state.after).drop least,
      ∀ last, noted last → (next { state with toPlace := place, noted := last }).Meets noted ends) :
    (Matcher.chars charTest least most appetite lead next state).Meets noted ends := by
  have here : noted state.toPlace := inside none _ (Place.mem_run_start ..)
  have tried : ∀ place ∈ (Place.run charTest.accepts most state.before state.after).drop least,
      noted place := fun place found => inside most place (List.mem_of_mem_drop found)
  -- Only a listed test notes a place of its run; any other one notes where it starts.
  have noteLast (limit : Option Nat) : ∃ last, noted last ∧
      (if charTest.listed then
        ({ state with noted := (Place.run charTest.accepts limit state.before
          state.after).getLastD state.toPlace } : State)
        else state.note) = { state with noted := last } := by
    split
    · exact ⟨_, noted_getLastD (inside limit) here, rfl⟩
    · exact ⟨_, here, rfl⟩
  unfold Matcher.chars
  simp only
  split
  · exact last
  · cases appetite with
    | greedy =>
      obtain ⟨last, may, same⟩ := noteLast most
      simp only [same]
      refine meets_fromPlaces (fun place found => ?_) may
      have beyond := List.mem_reverse.1 (List.mem_filter.1 found).1
      exact follows place beyond place (tried place beyond)
    | possessive =>
      obtain ⟨last, may, same⟩ := noteLast most
      simp only [same]
      split
      · next place found => exact follows place (List.mem_of_getLast? found) last may
      · exact may
    | lazy =>
      obtain ⟨required, may, same⟩ := noteLast (some least)
      simp only [same]
      split
      · exact may
      · have meets : (fromPlaces _ next state).Meets noted ends :=
          meets_fromPlaces (fun place found => follows place found place (tried place found)) last
        split
        · next ended matched => exact meets.matched matched
        · refine noted_getLastD ?_ here
          split
          · exact inside _
          · exact tried

/-! ## Repetitions of other expressions -/

/-- As many repetitions as possible. -/
theorem Carries.greedy (marks : Marks noted holds) (carries : body.Carries noted holds holds)
    (fewest : Nat) (most : Option Nat) (fuel count : Nat) (latest : Option Nat) :
    (Matcher.greedy body fewest most fuel count latest).Carries noted holds holds := by
  induction fuel generalizing count latest with
  | zero => exact fun _ _ _ _ given => marks.here given
  | succ fuel ih =>
    intro ends next follows state given
    have more (count : Nat) (latest : Option Nat) := carries ends _
      (ih count latest ends next follows) state.note (marks.note given)
    have ending := (follows _ (marks.note given)).failAt (marks.here given)
    unfold Matcher.greedy
    split
    · exact (more ..).failAt (marks.here given)
    · split
      · next ended attempt =>
        split at attempt
        · exact (more (count + 1) (some state.position)).matched attempt
        · exact absurd attempt (by simp)
      · exact ending

/-- As few repetitions as possible. -/
theorem Carries.lazy (marks : Marks noted holds) (carries : body.Carries noted holds holds)
    (fewest : Nat) (most : Option Nat) (fuel count : Nat) (latest : Option Nat) :
    (Matcher.lazy body fewest most fuel count latest).Carries noted holds holds := by
  induction fuel generalizing count latest with
  | zero => exact fun _ _ _ _ given => marks.here given
  | succ fuel ih =>
    intro ends next follows state given
    have more (count : Nat) (latest : Option Nat) := carries ends _
      (ih count latest ends next follows) state.note (marks.note given)
    unfold Matcher.lazy
    split
    · exact (more ..).failAt (marks.here given)
    · split
      · next ended attempt => exact (follows _ (marks.note given)).matched attempt
      · split
        · exact (more ..).failAt (marks.here given)
        · exact marks.here given

/-- Where one more repetition has failed, the place that was noted last is as asked for. -/
def Returns (holds : State → Prop) (body : Matcher) : Prop :=
  ∀ state place, holds state → body.first state.note = .failed place → holds (state.goTo place)

/-- As many final repetitions as possible. -/
theorem Carries.exhaust (marks : Marks noted holds) (carries : body.Carries noted holds holds)
    (returns : body.Returns holds) (fewest : Nat) (most : Option Nat) (fuel count : Nat)
    (latest : Option Nat) (given : holds state) :
    (Matcher.exhaust body fewest most fuel count latest state).Meets (fun _ => True) holds := by
  induction fuel generalizing count latest state with
  | zero => trivial
  | succ fuel ih =>
    have further (ended : State) (matched : body.first state.note = .matched ended) :
        holds ended := (carries.first marks (marks.note given)).matched matched
    unfold Matcher.exhaust
    split
    · split
      · next ended matched => exact ih _ _ (further ended matched)
      · trivial
    · split
      · split
        · next ended matched => exact ih _ _ (further ended matched)
        · next noted failed => exact returns state noted given failed
      · exact marks.note given

/-- Repetitions of a matcher. -/
theorem Carries.loop (marks : Marks noted holds) (carries : body.Carries noted holds holds)
    {appetite : Appetite} (returns : appetite = .possessive → body.Returns holds) (fewest : Nat)
    (most : Option Nat) (groups : Option Nat) :
    (Matcher.loop fewest most appetite groups body).Carries noted holds holds := by
  intro ends next follows state given
  unfold Matcher.loop
  simp only
  cases appetite with
  | greedy => exact carries.greedy marks _ _ _ _ _ ends next follows state given
  | lazy => exact carries.lazy marks _ _ _ _ _ ends next follows state given
  | possessive =>
    simp only
    have meets := carries.exhaust marks (returns rfl) (required fewest groups state.toPlace)
      (most.map (· - (fewest - required fewest groups state.toPlace)))
      (required fewest groups state.toPlace + state.position + state.after.length + 2) 0 none given
    split
    · next ended matched => exact follows ended (meets.matched matched)
    · exact marks.here given

end Matcher

end RoutePattern.Regex
