import Mathlib.Logic.Function.Iterate
import RoutePattern.Proofs.Matching.Repetition
import RoutePattern.Proofs.Matching.Stops

/-!
# Repetitions stop in the same order

The stops of a repetition are those of one more repetition of its body and the place itself, in the
order that its appetite asks for (`Matcher.repeatStops`, `Matcher.Finds.loop`). Where the body never
goes back, as many required repetitions as there are characters left lead to all that more of them
lead to, and in the same order (`iterate_seek_eq`): one that stays where it is only comes again.
-/
namespace RoutePattern.Regex

/-- Every stop is the place itself, or leaves fewer characters. -/
def Onward (stops : Place → List Place) : Prop :=
  ∀ place, ∀ stop ∈ stops place, stop = place ∨ stop.after.length < place.after.length

/-- No stop leaves more characters. -/
theorem Onward.length_le {stops : Place → List Place} (onward : Onward stops) {place stop : Place}
    (found : stop ∈ stops place) : stop.after.length ≤ place.after.length := by
  rcases onward place stop found with rfl | less
  · exact Nat.le_refl _
  · exact Nat.le_of_lt less

/-- What the first stop leads to that leads anywhere. -/
def seek (stops : Place → List Place) (goal : Place → Option Place) (place : Place) :
    Option Place := (stops place).findSome? goal

/-- Where an item leads to what the first of several items leads to, it may stand among them: that
it is tried once more changes nothing. -/
theorem findSome?_again {α β : Type} {items : List α} {item : α} {one two : α → Option β}
    (same : ∀ other ∈ items, other ≠ item → two other = one other)
    (value : two item = items.findSome? one) : items.findSome? two = two item := by
  by_cases here : item ∈ items
  · obtain ⟨front, back, rfl, first⟩ := List.eq_append_cons_of_mem here
    have inFront : front.findSome? two = front.findSome? one :=
      findSome?_congr fun other found =>
        same other (List.mem_append_left _ found) fun again => first (again ▸ found)
    rw [List.findSome?_append, List.findSome?_cons] at value ⊢
    rw [inFront]
    cases found : front.findSome? one with
    | some result => simpa [found] using value.symm
    | none =>
      rw [found, Option.none_or] at value
      rw [Option.none_or]
      cases here : two item with
      | some result => rfl
      | none =>
        -- Neither the item nor any of those behind it leads anywhere.
        rw [here] at value
        have nothing : one item = none ∧ back.findSome? one = none := by
          cases earlier : one item with
          | some result => simp [earlier] at value
          | none => exact ⟨rfl, by simpa [earlier] using value.symm⟩
        refine List.findSome?_eq_none_iff.2 fun other found => ?_
        by_cases again : other = item
        · rw [again, here]
        · rw [same other (List.mem_append_right _ (List.mem_cons_of_mem _ found)) again]
          exact List.findSome?_eq_none_iff.1 nothing.2 other found
  · rw [value]
    exact findSome?_congr fun other found => same other found fun again => here (again ▸ found)

/-- Once there are more repetitions than characters, one more makes no difference. -/
theorem iterate_seek_succ {stops : Place → List Place} (onward : Onward stops)
    (goal : Place → Option Place) {place : Place} {count : Nat}
    (enough : place.after.length < count) :
    (seek stops)^[count + 1] goal place = (seek stops)^[count] goal place := by
  induction length : place.after.length using Nat.strong_induction_on generalizing place count with
  | _ length ih =>
  obtain ⟨count, rfl⟩ : ∃ fewer, count = fewer + 1 := ⟨count - 1, by omega⟩
  have value : (seek stops)^[count + 1] goal place =
      (stops place).findSome? ((seek stops)^[count] goal) := by
    rw [Function.iterate_succ_apply', seek]
  rw [Function.iterate_succ_apply', seek]
  refine findSome?_again (fun stop found other => ih _ ?_ ?_ rfl) value
  · exact length ▸ (onward place stop found).resolve_left other
  · have less := (onward place stop found).resolve_left other
    omega

/-- Once there are more repetitions than characters, more of them make no difference. -/
theorem iterate_seek_eq {stops : Place → List Place} (onward : Onward stops)
    (goal : Place → Option Place) {place : Place} {count more : Nat}
    (enough : place.after.length < count) (fewer : count ≤ more) :
    (seek stops)^[more] goal place = (seek stops)^[count] goal place := by
  induction more, fewer using Nat.le_induction with
  | base => rfl
  | succ more fewer ih => rw [iterate_seek_succ onward goal (Nat.lt_of_lt_of_le enough fewer), ih]

namespace Matcher

/-! ## The stops of a repetition -/

/-- The stops of a repetition of a body with given stops. -/
def repeatStops (lazy : Bool) (stops : Place → List Place) (least : Nat) (most : Option Nat) :
    (fuel count : Nat) → (latest : Option Nat) → Place → List Place
  | 0, _, _, _ => []
  | fuel + 1, count, latest, place =>
    if count < least then
      (stops place).flatMap (repeatStops lazy stops least most fuel (count + 1) latest)
    else
      let further :=
        if most.all (count < ·) && latest != some place.position then
          (stops place).flatMap
            (repeatStops lazy stops least most fuel (count + 1) (some place.position))
        else []
      if lazy then place :: further else further ++ [place]

section Loops

variable {body : Matcher} {stops : Place → List Place} (finds : body.Finds .undecided stops)
  {next : Continuation} {goal : Place → Option Place} (leads : Leads next goal) (least : Nat)
  (most : Option Nat) (fuel count : Nat) (latest : Option Nat)
include finds leads

/-- As many repetitions as possible. -/
theorem leads_greedy : Leads (Matcher.greedy body least most fuel count latest next) fun place =>
    (repeatStops false stops least most fuel count latest place).findSome? goal := by
  induction fuel generalizing count latest with
  | zero => exact fun state => rfl
  | succ fuel ih =>
    intro state
    have further (latest : Option Nat) :
        (body (Matcher.greedy body least most fuel (count + 1) latest next) state.note).place? =
          ((stops state.toPlace).flatMap
            (repeatStops false stops least most fuel (count + 1) latest)).findSome? goal := by
      rw [findSome?_flatMap]
      exact finds _ _ (ih (count + 1) latest) (Lead.sound_undecided _) state.note
    have stopping : ((next state.note).failAt state.toPlace).place? = goal state.toPlace := by
      rw [Attempt.place?_failAt]
      exact leads state.note
    simp only [Matcher.greedy, repeatStops]
    split
    · rw [Attempt.place?_failAt]
      exact further latest
    · have allowed : mayRepeat most count latest state =
          (most.all (count < ·) && latest != some state.toPlace.position) := rfl
      simp only [Bool.false_eq_true, if_false, List.findSome?_append, List.findSome?_singleton,
        ← stopping, allowed]
      cases most.all (count < ·) && latest != some state.toPlace.position with
      | false => rfl
      | true =>
        simp only [if_true, ← further]
        cases body _ state.note <;> rfl

/-- As few repetitions as possible. -/
theorem leads_lazy : Leads (Matcher.lazy body least most fuel count latest next) fun place =>
    (repeatStops true stops least most fuel count latest place).findSome? goal := by
  induction fuel generalizing count latest with
  | zero => exact fun state => rfl
  | succ fuel ih =>
    intro state
    have further (latest : Option Nat) :
        ((body (Matcher.lazy body least most fuel (count + 1) latest next) state.note).failAt
          state.toPlace).place? =
          ((stops state.toPlace).flatMap
            (repeatStops true stops least most fuel (count + 1) latest)).findSome? goal := by
      rw [findSome?_flatMap, Attempt.place?_failAt]
      exact finds _ _ (ih (count + 1) latest) (Lead.sound_undecided _) state.note
    have stopping : (next state.note).place? = goal state.toPlace := leads state.note
    simp only [Matcher.lazy, repeatStops]
    split
    · exact further latest
    · have allowed : mayRepeat most count latest state =
          (most.all (count < ·) && latest != some state.toPlace.position) := rfl
      simp only [if_true, List.findSome?_cons, ← stopping, allowed]
      cases next state.note with
      | matched ended => rfl
      | failed noted =>
        cases most.all (count < ·) && latest != some state.toPlace.position with
        | false => rfl
        | true => simpa only [if_true, Attempt.place?_failed] using further (some state.position)

end Loops

/-! ## Counts and fuel -/

variable {stops : Place → List Place} {lazy : Bool}

/-- Whether one more repetition is allowed hangs on how many of them are left. -/
theorem all_lt_eq (most : Option Nat) (count : Nat) :
    most.all (count < ·) = (most.map (· - count)).all (0 < ·) := by
  cases most with
  | none => rfl
  | some most => exact decide_eq_decide.2 Nat.sub_pos_iff_lt.symm

/-- Beyond the least count, a repetition that has not moved the place is the last one. -/
theorem repeatStops_stuck {least : Nat} {most : Option Nat} {fuel count : Nat} {place : Place}
    (enough : least ≤ count) :
    repeatStops lazy stops least most (fuel + 1) count (some place.position) place = [place] := by
  rw [repeatStops, if_neg (Nat.not_lt.2 enough)]
  cases lazy <;> simp

/-- Beyond the least count, and with enough fuel, only the count of repetitions that are left
matters. -/
theorem repeatStops_congr (onward : Onward stops) {least least' : Nat} {most most' : Option Nat}
    {fuel fuel' count count' : Nat} {latest : Option Nat} {place : Place} (enough : least ≤ count)
    (enough' : least' ≤ count')
    (left : most.map (· - count) = most'.map (· - count'))
    (fuelled : place.after.length + 1 < fuel) (fuelled' : place.after.length + 1 < fuel') :
    repeatStops lazy stops least most fuel count latest place =
      repeatStops lazy stops least' most' fuel' count' latest place := by
  induction fuel generalizing fuel' count count' latest place with
  | zero => omega
  | succ fuel ih =>
    obtain ⟨fuel', rfl⟩ : ∃ fewer, fuel' = fewer + 1 := ⟨fuel' - 1, by omega⟩
    have fewer : most.map (· - (count + 1)) = most'.map (· - (count' + 1)) := by
      have lowered := congrArg (Option.map (· - 1)) left
      simpa only [Option.map_map, Function.comp_def, Nat.sub_sub] using lowered
    have further : (stops place).flatMap
          (repeatStops lazy stops least most fuel (count + 1) (some place.position)) =
        (stops place).flatMap
          (repeatStops lazy stops least' most' fuel' (count' + 1) (some place.position)) := by
      refine List.flatMap_congr fun stop found => ?_
      rcases onward place stop found with rfl | less
      · obtain ⟨fuel, rfl⟩ : ∃ fewer, fuel = fewer + 1 := ⟨fuel - 1, by omega⟩
        obtain ⟨fuel', rfl⟩ : ∃ fewer, fuel' = fewer + 1 := ⟨fuel' - 1, by omega⟩
        rw [repeatStops_stuck (by omega), repeatStops_stuck (by omega)]
      · exact ih (by omega) (by omega) fewer (by omega) (by omega)
    rw [repeatStops, repeatStops, if_neg (Nat.not_lt.2 enough), if_neg (Nat.not_lt.2 enough'),
      further, all_lt_eq most, all_lt_eq most', left]

/-- What the stops of a repetition lead to: those of the required repetitions, and then those of the
repetitions that are left. -/
theorem findSome?_repeatStops (onward : Onward stops) (goal : Place → Option Place) {least : Nat}
    {most : Option Nat} {fuel count several : Nat} {place : Place} (missing : count + several = least)
    (fuelled : several + place.after.length + 1 < fuel) :
    (repeatStops lazy stops least most fuel count none place).findSome? goal =
      (seek stops)^[several] (fun place =>
        (repeatStops lazy stops 0 (most.map (· - least)) (place.after.length + 2) 0 none
          place).findSome? goal) place := by
  induction several generalizing count fuel place with
  | zero =>
    obtain rfl : count = least := missing
    have left : most.map (· - count) = (most.map (· - count)).map (· - 0) := by
      simp [Function.comp_def]
    rw [Function.iterate_zero_apply, repeatStops_congr onward (Nat.le_refl _) (Nat.le_refl 0) left
      (by omega) (Nat.lt_succ_self _)]
  | succ several ih =>
    obtain ⟨fuel, rfl⟩ : ∃ fewer, fuel = fewer + 1 := ⟨fuel - 1, by omega⟩
    rw [repeatStops, if_pos (by omega), findSome?_flatMap, Function.iterate_succ_apply', seek]
    refine findSome?_congr fun stop found => ih (by omega) ?_
    have near := onward.length_le found
    omega

/-- The stops of a repetition at a place. -/
def loopStops (lazy : Bool) (stops : Place → List Place) (least : Nat) (most : Option Nat)
    (place : Place) : List Place :=
  repeatStops lazy stops least most (least + place.position + place.after.length + 2) 0 none place

/-- More required repetitions than there are characters make no difference. -/
theorem findSome?_required (onward : Onward stops) (goal : Place → Option Place) (least : Nat)
    (most : Option Nat) (groups : Option Nat) (place : Place) :
    let fewest := required least groups place
    (repeatStops lazy stops fewest (most.map (· - (least - fewest)))
        (fewest + place.position + place.after.length + 2) 0 none place).findSome? goal =
      (loopStops lazy stops least most place).findSome? goal := by
  intro fewest
  have lower : fewest ≤ least := by
    show required least groups place ≤ least
    unfold required
    split
    · exact Nat.le_refl _
    · exact Nat.min_le_left _ _
  have left : (most.map (· - (least - fewest))).map (· - fewest) = most.map (· - least) := by
    rw [Option.map_map]
    congr 1
    funext most
    simp only [Function.comp_apply]
    omega
  rw [loopStops, findSome?_repeatStops onward goal (Nat.zero_add _) (by omega),
    findSome?_repeatStops onward goal (Nat.zero_add _) (by omega), left]
  -- Beyond the characters that are left no repetition moves, so counting further finds the same.
  cases groups with
  | none => rfl
  | some groups =>
    by_cases few : least ≤ (place.after.length + 1) * (groups + 1) + 1
    · have same : fewest = least := Nat.min_eq_left few
      rw [same]
    · have many : place.after.length < fewest := by
        have more : place.after.length + 1 ≤ (place.after.length + 1) * (groups + 1) :=
          Nat.le_mul_of_pos_right _ (Nat.succ_pos _)
        show place.after.length < min least ((place.after.length + 1) * (groups + 1) + 1)
        omega
      exact (iterate_seek_eq onward _ many lower).symm

/-- A repetition that may be given up again. -/
theorem Finds.loop {body : Matcher} {lead : Lead} (finds : body.Finds .undecided stops)
    (least : Nat) (most : Option Nat) {appetite : Appetite} (loose : appetite ≠ .possessive)
    {groups : Option Nat} (onward : groups ≠ none → Onward stops) :
    (Matcher.loop least most appetite groups body).Finds lead
      (loopStops (appetite == .lazy) stops least most) := by
  intro next goal leads _ state
  have shortened : ∀ lazy,
      (repeatStops lazy stops (required least groups state.toPlace)
        (most.map (· - (least - required least groups state.toPlace)))
        (required least groups state.toPlace + state.position + state.after.length + 2) 0 none
        state.toPlace).findSome? goal =
      (loopStops lazy stops least most state.toPlace).findSome? goal := by
    intro lazy
    cases groups with
    | none => simp [required, loopStops]
    | some groups =>
      exact findSome?_required (onward (Option.some_ne_none _)) goal least most (some groups) _
  cases appetite with
  | possessive => exact absurd rfl loose
  | greedy =>
    rw [show (Appetite.greedy == .lazy) = false from rfl, ← shortened]
    exact leads_greedy finds leads _ _ _ 0 none state
  | lazy =>
    rw [show (Appetite.lazy == .lazy) = true from rfl, ← shortened]
    exact leads_lazy finds leads _ _ _ 0 none state

end Matcher

end RoutePattern.Regex
