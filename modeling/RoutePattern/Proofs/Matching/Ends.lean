import Mathlib.Data.List.TakeWhile
import RoutePattern.Regex.Program

/-!
# The ends of a matcher in order of preference

Where no possessive repetition looks at the place that was noted last, a matcher is known by the
list of spots where it can end, the preferred one first: going on from a matcher is going on from
the first of its ends that leads anywhere (`Matcher.Lists`). One matcher after the other concatenates
such lists, a choice appends them, and a repetition unfolds into both.
-/
namespace RoutePattern.Regex

/-- What an attempt goes on from, whatever place is noted. -/
structure Spot extends Place where
  /-- The groups from the first on. -/
  slots : List Slot
  deriving DecidableEq

namespace Spot

/-- The spot after the next characters, which are given with what follows them. -/
def advance (spot : Spot) (taken rest : Text) : Spot :=
  ⟨⟨taken.reverse ++ spot.before, rest⟩, spot.slots⟩

/-- The spot at another place. -/
def goTo (spot : Spot) (place : Place) : Spot := ⟨place, spot.slots⟩

/-- The spot with one group changed. -/
def modify (spot : Spot) (index : Nat) (change : Slot → Slot) : Spot :=
  { spot with slots := spot.slots.modify (index - 1) change }

/-- The spot with a group opened here. -/
def openGroup (spot : Spot) (index : Nat) : Spot :=
  spot.modify index fun slot => { slot with opened := some spot.position }

/-- The spot with a group closed here. -/
def closeGroup (spot : Spot) (index : Nat) : Spot :=
  spot.modify index fun slot => { slot with closed := some spot.position }

/-- Nothing is taken in front of the rest of the text. -/
@[simp] theorem advance_nil (spot : Spot) : spot.advance [] spot.after = spot := rfl

/-- What follows an advance is the rest that was given. -/
@[simp] theorem after_advance (spot : Spot) (taken rest : Text) :
    (spot.advance taken rest).after = rest := rfl

/-- An advance adds the count of the characters taken to the position. -/
@[simp] theorem position_advance (spot : Spot) (taken rest : Text) :
    (spot.advance taken rest).position = spot.position + taken.length := by
  simp [Place.position, advance, Nat.add_comm]

/-- Two advances are one. -/
@[simp] theorem advance_advance (spot : Spot) (one two middle rest : Text) :
    (spot.advance one middle).advance two rest = spot.advance (one ++ two) rest := by
  simp [advance]

end Spot

/-- The element after some others is changed. -/
theorem modify_append_cons {α : Type} (change : α → α) (done : List α) (one : α)
    (others : List α) :
    (done ++ one :: others).modify done.length change = done ++ change one :: others := by
  induction done with
  | nil => rfl
  | cons first done ih => exact congrArg (first :: ·) ih

/-- The spot of a state. -/
def State.spot (state : State) : Spot := ⟨state.toPlace, state.slots⟩

/-- The spot where an attempt ends, if it matches. -/
def Attempt.spot? (attempt : Attempt) : Option Spot := attempt.ended?.map State.spot

@[simp] theorem Attempt.spot?_failed (noted : Place) : (Attempt.failed noted).spot? = none := rfl

@[simp] theorem Attempt.spot?_matched (state : State) :
    (Attempt.matched state).spot? = some state.spot := rfl

@[simp] theorem Attempt.spot?_failAt (place : Place) (attempt : Attempt) :
    (attempt.failAt place).spot? = attempt.spot? := by
  cases attempt <;> rfl

/-- A way of going on that leads from spots to spots, whatever place is noted. -/
def Follows (next : Continuation) (go : Spot → Option Spot) : Prop :=
  ∀ state, (next state).spot? = go state.spot

/-- A matcher goes on from the first spot of a list that leads anywhere. -/
def Matcher.Lists (matcher : Matcher) (ends : Spot → List Spot) : Prop :=
  ∀ next go, Follows next go →
    ∀ state, (matcher next state).spot? = (ends state.spot).findSome? go

/-- Trying all that several items lead to is trying what each of them leads to. -/
theorem findSome?_flatMap {α β γ : Type} (items : List α) (each : α → List β) (go : β → Option γ) :
    (items.flatMap each).findSome? go = items.findSome? fun item => (each item).findSome? go := by
  induction items with
  | nil => rfl
  | cons item items ih =>
    rw [List.flatMap_cons, List.findSome?_append, ih, List.findSome?_cons]
    cases (each item).findSome? go <;> rfl

/-- Items that lead to the same are tried with the same result. -/
theorem findSome?_congr {α β : Type} {items : List α} {one two : α → Option β}
    (same : ∀ item ∈ items, one item = two item) : items.findSome? one = items.findSome? two := by
  induction items with
  | nil => rfl
  | cons item items ih =>
    have later := ih fun other found => same other (List.mem_cons_of_mem _ found)
    rw [List.findSome?_cons, List.findSome?_cons, same item (List.mem_cons_self ..), later]

/-- Where a single item leads anywhere, trying all items is trying this one. -/
theorem findSome?_eq_of_mem {α β : Type} {items : List α} {one : α} {go : α → Option β}
    (found : one ∈ items) (others : ∀ item ∈ items, item ≠ one → go item = none) :
    items.findSome? go = go one := by
  induction items with
  | nil => simp at found
  | cons item items ih =>
    rw [List.findSome?_cons]
    by_cases same : item = one
    · subst same
      cases here : go item with
      | some result => rfl
      | none =>
        rw [List.findSome?_eq_none_iff]
        intro other later
        by_cases same : other = item
        · rw [same, here]
        · exact others other (List.mem_cons_of_mem _ later) same
    · rw [others item (List.mem_cons_self ..) same]
      have later : one ∈ items := by
        rcases List.mem_cons.1 found with eq | later
        · exact absurd eq.symm same
        · exact later
      exact ih later fun other later => others other (List.mem_cons_of_mem _ later)

namespace Matcher

variable {one two body : Matcher} {f g ends : Spot → List Spot}

/-- The first match of a matcher ends at the first of its ends. -/
theorem Lists.first (lists : body.Lists ends) (state : State) :
    (body.first state).spot? = (ends state.spot).head? := by
  have final : Follows (fun ended => .matched ended.note) some := fun _ => rfl
  rw [Matcher.first, lists _ _ final state]
  cases ends state.spot <;> rfl

/-- Going on at once. -/
theorem lists_id : Lists (fun next => next) fun spot => [spot] := by
  intro next go follows state
  rw [List.findSome?_singleton]
  exact follows state

/-- One character of a class. -/
theorem lists_one (accepts : Char → Bool) :
    (Matcher.one accepts).Lists fun spot =>
      match spot.after with
      | [] => []
      | c :: rest => if accepts c then [spot.advance [c] rest] else [] := by
  intro next go follows state
  obtain ⟨⟨before, after⟩, noted, slots⟩ := state
  cases after with
  | nil => rfl
  | cons c rest =>
    by_cases ok : accepts c
    · simp only [Matcher.one, State.spot, ok, if_true, List.findSome?_singleton]
      exact follows (State.step ⟨⟨before, c :: rest⟩, noted, slots⟩ c rest)
    · simp [Matcher.one, State.spot, ok]

/-- A condition that hangs on the spot alone. -/
theorem lists_test {condition : State → Bool} {holds : Spot → Bool}
    (agrees : ∀ state, condition state = holds state.spot) :
    (Matcher.test condition).Lists fun spot => if holds spot then [spot] else [] := by
  intro next go follows state
  rw [Matcher.test, agrees state]
  by_cases ok : holds state.spot
  · simp only [ok, if_true, List.findSome?_singleton]
    exact follows state
  · simp [ok]

/-- One matcher after the other. -/
theorem Lists.seq (first : one.Lists f) (second : two.Lists g) :
    (one.seq two).Lists fun spot => (f spot).flatMap g := by
  intro next go follows state
  have later : Follows (two next) fun spot => (g spot).findSome? go := second next go follows
  rw [Matcher.seq, first _ _ later state, findSome?_flatMap]

/-- A choice. -/
theorem Lists.alt (first : one.Lists f) (second : two.Lists g) :
    (one.alt two).Lists fun spot => f spot ++ g spot := by
  intro next go follows state
  rw [List.findSome?_append, ← first next go follows state, Matcher.alt]
  cases one next state with
  | matched ended => rfl
  | failed noted => exact second next go follows { state with noted := noted }

/-- A matcher that is tried only where the text may go on as it asks. -/
theorem Lists.offered (lists : body.Lists ends) {lead : Lead}
    (needed : ∀ spot, lead.admits spot.after = false → ends spot = []) :
    (Matcher.offered lead body).Lists ends := by
  intro next go follows state
  rw [Matcher.offered]
  cases admitted : lead.admits state.after with
  | true => exact lists next go follows state.note
  | false =>
    have nowhere := needed state.spot admitted
    simp [nowhere]

/-- A group closes at every end of its body. -/
theorem Lists.group (lists : body.Lists ends) (index : Nat) :
    (Matcher.group index body).Lists fun spot =>
      (ends (spot.openGroup index)).map (·.closeGroup index) := by
  intro next go follows state
  have closing : Follows (fun ended => next (ended.closeGroup index))
      fun spot => go (spot.closeGroup index) := fun ended => follows (ended.closeGroup index)
  rw [Matcher.group, lists _ _ closing, List.findSome?_map]
  rfl

/-- A look ahead goes on where the body can end anywhere, with what its groups have matched. -/
theorem Lists.ahead (lists : body.Lists ends) :
    Lists (fun next state => Matcher.look false body (some state.toPlace) next state) fun spot =>
      (ends spot).head?.toList.map fun ended => { spot with slots := ended.slots } := by
  intro next go follows state
  have found := lists.first (state.goTo state.toPlace)
  simp only [Matcher.look]
  have same : (state.goTo state.toPlace).spot = state.spot := rfl
  rw [same] at found
  cases attempt : body.first (state.goTo state.toPlace) with
  | failed noted =>
    rw [attempt] at found
    simp only [Attempt.spot?_failed] at found
    simp [← found]
  | matched ended =>
    rw [attempt] at found
    simp only [Attempt.spot?_matched] at found
    rw [← found, Option.toList_some, List.map_singleton, List.findSome?_singleton]
    exact follows { state with noted := ended.noted, slots := ended.slots }

end Matcher

end RoutePattern.Regex
