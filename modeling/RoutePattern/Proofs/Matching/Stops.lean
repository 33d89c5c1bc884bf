import RoutePattern.Proofs.Matching.Blind
import RoutePattern.Proofs.Matching.Comparison.Matcher

/-!
# The places where a matcher stops

What is matched after an expression that refers to no group hangs on the place alone. Such an
expression is known by the places where it can stop, the preferred one first: going on from it is
going on from the first of its stops that leads anywhere (`Matcher.Finds`). Unlike the spots of
`Matcher.Lists`, places show nothing of what the groups have matched, and what comes after a matcher
may have told it what it asks of the text.
-/
namespace RoutePattern.Regex

/-- The place where an attempt ends, if it matches. -/
def Attempt.place? (attempt : Attempt) : Option Place := attempt.ended?.map State.toPlace

@[simp] theorem Attempt.place?_failed (noted : Place) : (Attempt.failed noted).place? = none := rfl

@[simp] theorem Attempt.place?_matched (state : State) :
    (Attempt.matched state).place? = some state.toPlace := rfl

@[simp] theorem Attempt.place?_failAt (place : Place) (attempt : Attempt) :
    (attempt.failAt place).place? = attempt.place? := by
  cases attempt <;> rfl

/-- Attempts that end alike end at the same place. -/
theorem Attempt.Near.place?_eq {one two : Attempt} (near : one.Near two) :
    two.place? = one.place? := by
  cases near <;> rfl

/-- Going on leads from every place to a goal, whatever place is noted and whatever the groups have
matched. -/
def Leads (next : Continuation) (goal : Place → Option Place) : Prop :=
  ∀ state, (next state).place? = goal state.toPlace

/-- A matcher goes on from the first of its stops that leads anywhere, where what comes after it
asks of the text what it is told. -/
def Matcher.Finds (matcher : Matcher) (lead : Lead) (stops : Place → List Place) : Prop :=
  ∀ next goal, Leads next goal → lead.Sound next →
    ∀ state, (matcher next state).place? = (stops state.toPlace).findSome? goal

/-- The stop of a matcher whose first match is final. -/
def Matcher.final (matcher : Matcher) (place : Place) : List Place :=
  (matcher.first ⟨place, place, []⟩).place?.toList

namespace Matcher

variable {one two body : Matcher} {lead : Lead} {stops others : Place → List Place}

/-- A matcher that is told nothing. -/
theorem Finds.told (finds : body.Finds .undecided stops) : body.Finds lead stops :=
  fun next goal leads _ => finds next goal leads (Lead.sound_undecided next)

/-- Going on at once. -/
theorem finds_id : Finds (fun next => next) lead fun place => [place] := by
  intro next goal leads _ state
  rw [List.findSome?_singleton]
  exact leads state

/-- The stop after one character of a class. -/
def oneStop (accepts : Char → Bool) (place : Place) : List Place :=
  match place.after with
  | [] => []
  | c :: rest => if accepts c then [⟨c :: place.before, rest⟩] else []

/-- One character of a class. -/
theorem finds_one (accepts : Char → Bool) :
    (Matcher.one accepts).Finds lead (oneStop accepts) := by
  intro next goal leads _ state
  obtain ⟨⟨before, after⟩, noted, slots⟩ := state
  cases after with
  | nil => rfl
  | cons c rest =>
    cases accepted : accepts c with
    | false => simp [Matcher.one, oneStop, accepted]
    | true =>
      simp only [Matcher.one, oneStop, accepted, if_true, List.findSome?_singleton]
      exact leads _

/-- The stop at a place where a condition holds. -/
def testStop (holds : Place → Bool) (place : Place) : List Place :=
  if holds place then [place] else []

/-- A condition on the place. -/
theorem finds_test {condition : State → Bool} {holds : Place → Bool}
    (same : ∀ state, condition state = holds state.toPlace) :
    (Matcher.test condition).Finds lead (testStop holds) := by
  intro next goal leads _ state
  rw [Matcher.test, same, testStop]
  cases holds state.toPlace with
  | false => rfl
  | true => exact (leads state).trans (List.findSome?_singleton ..).symm

/-- One matcher after the other. What the first one is told comes from the second one. -/
theorem Finds.seq {asked : Lead} (first : one.Finds asked stops) (second : two.Finds lead others)
    (sound : ∀ next, lead.Sound next → asked.Sound (two next)) :
    (one.seq two).Finds lead fun place => (stops place).flatMap others := by
  intro next goal leads told state
  have later : Leads (two next) fun place => (others place).findSome? goal :=
    second next goal leads told
  rw [findSome?_flatMap]
  exact first (two next) _ later (sound next told) state

/-- A matcher that is tried if the text may go on as it asks. -/
theorem Finds.offered (finds : body.Finds lead stops) {asked : Lead}
    (sound : ∀ next, lead.Sound next → asked.Sound (body next)) :
    (Matcher.offered asked body).Finds lead stops := by
  intro next goal leads told state
  have tried : (body next state.note).place? = (stops state.toPlace).findSome? goal :=
    finds next goal leads told state.note
  rw [← tried, Matcher.offered]
  split
  · rfl
  · next refused =>
    cases attempt : body next state.note with
    | failed noted => rfl
    | matched ended => exact absurd (sound next told state.note ended attempt) refused

/-- A choice. -/
theorem Finds.alt (first : one.Finds lead stops) (second : two.Finds lead others) :
    (one.alt two).Finds lead fun place => stops place ++ others place := by
  intro next goal leads told state
  rw [List.findSome?_append, ← first next goal leads told state, Matcher.alt]
  cases one next state with
  | matched ended => rfl
  | failed noted => exact second next goal leads told { state with noted := noted }

/-- A group stops where its body does. -/
theorem Finds.group (finds : body.Finds .undecided stops) (index : Nat) :
    (Matcher.group index body).Finds lead stops := by
  intro next goal leads _ state
  have closes : Leads (fun ended => next (ended.closeGroup index)) goal :=
    fun ended => leads (ended.closeGroup index)
  exact finds _ goal closes (Lead.sound_undecided _) (state.openGroup index)

/-- The first match of a matcher ends at the first of its stops. -/
theorem Finds.first (finds : body.Finds .undecided stops) (state : State) :
    (body.first state).place? = (stops state.toPlace).head? := by
  have leads : Leads (fun ended => .matched ended.note) some := fun _ => rfl
  rw [Matcher.first, finds _ some leads (Lead.sound_undecided _) state]
  cases stops state.toPlace <;> rfl

/-- A matcher whose first match is final stops at the first of its stops alone. -/
theorem Finds.atomic (finds : body.Finds .undecided stops) :
    (Matcher.atomic body).Finds lead fun place => (stops place).head?.toList := by
  intro next goal leads _ state
  have tried : (body.first state.note).place? = (stops state.toPlace).head? :=
    finds.first state.note
  dsimp only
  rw [← tried, Matcher.atomic]
  cases body.first state.note with
  | failed noted => rfl
  | matched ended =>
    simp only [Attempt.place?_matched, Option.toList_some, List.findSome?_singleton]
    exact leads ended

/-- The stop after a look from another place, or from none. -/
def lookStop (negated : Bool) (stops : Place → List Place) (start : Option Place) (place : Place) :
    List Place :=
  if (start.all fun start => (stops start).isEmpty) = negated then [place] else []

/-- A look from another place stays at the place. -/
theorem Finds.look (finds : body.Finds .undecided stops) (negated : Bool)
    (start : Place → Option Place) :
    Finds (fun next state => Matcher.look negated body (start state.toPlace) next state) lead
      fun place => lookStop negated stops (start place) place := by
  intro next goal leads _ state
  simp only [Matcher.look, lookStop]
  -- Nothing in front of the place to look from is as good as a look that finds nothing.
  cases start state.toPlace with
  | none =>
    cases negated
    · rfl
    · exact (leads state).trans (List.findSome?_singleton ..).symm
  | some place =>
    have tried : (body.first (state.goTo place)).place? = (stops place).head? :=
      finds.first (state.goTo place)
    cases attempt : body.first (state.goTo place) with
    | failed noted =>
      have nothing : stops place = [] := by simpa [attempt] using tried.symm
      cases negated
      · simp [attempt, nothing]
      · simp only [attempt, nothing, Option.all_some, List.isEmpty_nil, if_true,
          List.findSome?_singleton]
        exact leads { state with noted := noted }
    | matched ended =>
      have found : (stops place).isEmpty = false := by
        cases stopped : stops place with
        | nil => simp [attempt, stopped] at tried
        | cons _ _ => rfl
      cases negated
      · simp only [attempt, found, Option.all_some, if_true, List.findSome?_singleton]
        exact leads { state with noted := ended.noted, slots := ended.slots }
      · simp [attempt, found]

end Matcher

end RoutePattern.Regex
