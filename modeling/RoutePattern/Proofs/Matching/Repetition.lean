import Mathlib.Data.List.Basic
import RoutePattern.Proofs.Matching.Ends

/-!
# The ends of repetitions

A repetition of one character ends after any count of accepted characters that it allows, and an
unbounded greedy repetition of a body that moves the place unfolds into one more repetition or none
(`starEnds_eq`).
-/
namespace RoutePattern.Regex

namespace Place

/-- A bounded run is the beginning of the unbounded one. -/
theorem run_some (accepts : Char → Bool) (most : Nat) (before after : Text) :
    run accepts (some most) before after = (run accepts none before after).take (most + 1) := by
  induction after generalizing most before with
  | nil => simp [run]
  | cons c after ih =>
    cases most with
    | zero => simp [run]
    | succ most =>
      by_cases ok : accepts c
      · simp [run, ok, ih]
      · simp [run, ok]

/-- A run has at most one place more than there are characters. -/
theorem length_run_le (accepts : Char → Bool) (before after : Text) :
    (run accepts none before after).length ≤ after.length + 1 := by
  induction after generalizing before with
  | nil => simp [run]
  | cons c after ih =>
    by_cases ok : accepts c
    · simpa [run, ok] using ih (c :: before)
    · simp [run, ok]

/-- A bound allows one more if it allows one and, lowered by one, the others. -/
theorem all_pred_iff {most : Option Nat} (length : Nat) : most.all (0 < ·) = true ∧
    (most.map (· - 1)).all (length ≤ ·) = true ↔ most.all (length + 1 ≤ ·) = true := by
  cases most with
  | none => simp
  | some most =>
    simp only [Option.all_some, Option.map_some, decide_eq_true_eq]
    omega

/-- The places of a run that lie beyond a least count. -/
theorem mem_run_drop_iff {accepts : Char → Bool} {least : Nat} {most : Option Nat}
    {before after : Text} {place : Place} :
    place ∈ (run accepts most before after).drop least ↔
      ∃ taken rest, after = taken ++ rest ∧ (∀ c ∈ taken, accepts c = true) ∧
        least ≤ taken.length ∧ most.all (taken.length ≤ ·) = true ∧
          place = ⟨taken.reverse ++ before, rest⟩ := by
  induction after generalizing least most before with
  | nil =>
    cases least with
    | zero =>
      constructor
      · intro here
        exact ⟨[], [], rfl, by simp, Nat.le_refl 0, by cases most <;> simp, by simpa [run] using here⟩
      · rintro ⟨taken, rest, cut, -, -, -, rfl⟩
        obtain ⟨rfl, rfl⟩ := List.append_eq_nil_iff.1 cut.symm
        simp [run]
    | succ least =>
      refine iff_of_false (by simp [run]) ?_
      rintro ⟨taken, rest, cut, -, enough, -⟩
      obtain ⟨rfl, -⟩ := List.append_eq_nil_iff.1 cut.symm
      exact absurd enough (Nat.not_succ_le_zero least)
  | cons c after ih =>
    -- The places after the first character are those of a run with one character less.
    have later (least : Nat) : place ∈ (if most.all (0 < ·) && accepts c then
          run accepts (most.map (· - 1)) (c :: before) after else []).drop least ↔
        ∃ taken rest, after = taken ++ rest ∧ (∀ d ∈ c :: taken, accepts d = true) ∧
          least ≤ taken.length ∧ most.all (taken.length + 1 ≤ ·) = true ∧
            place = ⟨(c :: taken).reverse ++ before, rest⟩ := by
      by_cases accepted : accepts c = true
      · by_cases allowed : most.all (0 < ·) = true
        · rw [if_pos (by simp [accepted, allowed]), ih]
          simp only [← all_pred_iff, allowed, true_and, List.forall_mem_cons, accepted, List.reverse_cons,
            List.append_assoc, List.singleton_append]
        · rw [if_neg (by simp [allowed])]
          refine iff_of_false (by simp) ?_
          rintro ⟨taken, -, -, -, -, enough, -⟩
          exact allowed ((all_pred_iff taken.length).2 enough).1
      · simp [accepted]
    cases least with
    | zero =>
      rw [List.drop_zero, run, List.mem_cons, ← List.drop_zero (l := ite ..), later]
      constructor
      · rintro (rfl | ⟨taken, rest, rfl, accepted, -, few, rfl⟩)
        · exact ⟨[], c :: after, rfl, by simp, Nat.le_refl 0, by cases most <;> simp, rfl⟩
        · exact ⟨c :: taken, rest, rfl, accepted, Nat.zero_le _, few, rfl⟩
      · rintro ⟨taken, rest, cut, accepted, -, few, rfl⟩
        cases taken with
        | nil => exact .inl (by simp [cut])
        | cons d taken =>
          obtain ⟨rfl, rfl⟩ := List.cons.inj cut
          exact .inr ⟨taken, rest, rfl, accepted, Nat.zero_le _, few, rfl⟩
    | succ least =>
      rw [run, List.drop_succ_cons, later]
      constructor
      · rintro ⟨taken, rest, rfl, accepted, enough, few, rfl⟩
        exact ⟨c :: taken, rest, rfl, accepted, Nat.succ_le_succ enough, few, rfl⟩
      · rintro ⟨taken, rest, cut, accepted, enough, few, rfl⟩
        cases taken with
        | nil => exact absurd enough (Nat.not_succ_le_zero least)
        | cons d taken =>
          obtain ⟨rfl, rfl⟩ := List.cons.inj cut
          exact ⟨taken, rest, rfl, accepted, Nat.le_of_succ_le_succ enough, few, rfl⟩

/-- The places of a run but the first come after at least one accepted character. -/
theorem mem_drop_run_iff {accepts : Char → Bool} {before after : Text} {place : Place} :
    place ∈ (run accepts none before after).drop 1 ↔
      ∃ taken rest, taken ≠ [] ∧ after = taken ++ rest ∧ (∀ c ∈ taken, accepts c = true) ∧
        place = ⟨taken.reverse ++ before, rest⟩ := by
  rw [mem_run_drop_iff]
  simp only [Option.all_none, true_and, Nat.succ_le_iff, List.length_pos_iff]
  constructor
  · rintro ⟨taken, rest, cut, accepted, given, same⟩
    exact ⟨taken, rest, given, cut, accepted, same⟩
  · rintro ⟨taken, rest, given, cut, accepted, same⟩
    exact ⟨taken, rest, cut, accepted, given, same⟩

/-- There is no room for a count of characters that are not there. -/
theorem length_lt_of_hasRoom_false {count : Nat} {place : Place}
    (full : place.hasRoom count = false) : place.after.length < count := by
  cases count with
  | zero => simp [hasRoom] at full
  | succ count =>
    simp only [hasRoom, Bool.not_eq_false', List.isEmpty_iff, List.drop_eq_nil_iff] at full
    omega

/-- A bounded run has no more places than the unbounded one. -/
theorem length_run_le_none (accepts : Char → Bool) (most : Option Nat) (before after : Text) :
    (run accepts most before after).length ≤ (run accepts none before after).length := by
  cases most with
  | none => exact Nat.le_refl _
  | some most =>
    rw [run_some]
    exact List.length_take_le' ..

/-- Without room for a count of characters no run gets beyond that count. -/
theorem run_drop_of_full {accepts : Char → Bool} {least : Nat} {most : Option Nat} {place : Place}
    (full : place.hasRoom least = false) :
    (run accepts most place.before place.after).drop least = [] := by
  have few := length_lt_of_hasRoom_false full
  have short := length_run_le accepts place.before place.after
  have bounded := length_run_le_none accepts most place.before place.after
  exact List.drop_eq_nil_of_le (by omega)

/-- Where the run to a count of characters misses some, no run gets beyond that count. -/
theorem run_drop_of_missing {accepts : Char → Bool} {least : Nat} {most : Option Nat}
    {before after : Text} (missing : (run accepts (some least) before after).length ≤ least) :
    (run accepts most before after).drop least = [] := by
  have bounded := length_run_le_none accepts most before after
  rw [run_some, List.length_take] at missing
  exact List.drop_eq_nil_of_le (by omega)

end Place

namespace Matcher

/-- The first of several places from which all the rest matches. -/
theorem lists_fromPlaces (places : List Place) :
    (Matcher.fromPlaces places).Lists fun spot => places.map spot.goTo := by
  intro next go follows state
  induction places generalizing state with
  | nil => rfl
  | cons place places ih =>
    simp only [Matcher.fromPlaces, List.map_cons, List.findSome?_cons]
    have here := follows (state.goTo place)
    cases attempt : next (state.goTo place) with
    | matched ended =>
      rw [attempt] at here
      rw [show go (state.spot.goTo place) = some ended.spot from here.symm]
      rfl
    | failed noted =>
      rw [attempt] at here
      rw [show go (state.spot.goTo place) = none from here.symm]
      exact ih { state with noted := noted }

/-- The spots after a lazy unbounded repetition of one character, the nearest first. -/
theorem lists_chars_lazy (charTest : CharTest) (least : Nat) (lead : Lead) :
    (Matcher.chars charTest least none .lazy lead).Lists fun spot =>
      ((Place.run charTest.accepts none spot.before spot.after).drop least).map spot.goTo := by
  intro next go follows state
  simp only [Matcher.chars]
  cases room : state.hasRoom least with
  | false => simp [State.spot, Place.run_drop_of_full room]
  | true =>
    simp only [Bool.not_true, Bool.false_eq_true, if_false]
    split
    · next missing => simp [State.spot, Place.run_drop_of_missing missing]
    · have tried := lists_fromPlaces
        ((Place.run charTest.accepts none state.before state.after).drop least) next go follows
        state
      refine Eq.trans ?_ tried
      split <;> simp_all

/-- The spots after a greedy unbounded repetition of one character, the furthest first. -/
theorem lists_chars_greedy (charTest : CharTest) (least : Nat) :
    (Matcher.chars charTest least none .greedy .undecided).Lists fun spot =>
      ((Place.run charTest.accepts none spot.before spot.after).drop least).reverse.map
        spot.goTo := by
  intro next go follows state
  simp only [Matcher.chars]
  cases room : state.hasRoom least with
  | false => simp [State.spot, Place.run_drop_of_full room]
  | true =>
    have all (places : List Place) : places.filter (fun _ => true) = places :=
      List.filter_eq_self.2 fun _ _ => rfl
    simp only [Bool.not_true, Bool.false_eq_true, if_false, all]
    split
    · exact lists_fromPlaces _ next go follows _
    · exact lists_fromPlaces _ next go follows _

/-! ## Repetitions of other expressions -/

/-- The ends of a greedy repetition whose body has given ends. -/
def greedyEnds (ends : Spot → List Spot) (least : Nat) (most : Option Nat) :
    (fuel count : Nat) → (latest : Option Nat) → Spot → List Spot
  | 0, _, _, _ => []
  | fuel + 1, count, latest, spot =>
    if count < least then (ends spot).flatMap (greedyEnds ends least most fuel (count + 1) latest)
    else
      (if most.all (count < ·) && latest != some spot.position then
        (ends spot).flatMap (greedyEnds ends least most fuel (count + 1) (some spot.position))
      else []) ++ [spot]

/-- A greedy repetition prefers one more repetition to none. -/
theorem Lists.greedy {body : Matcher} {ends : Spot → List Spot} (lists : body.Lists ends)
    (least : Nat) (most : Option Nat) (fuel count : Nat) (latest : Option Nat) :
    (Matcher.greedy body least most fuel count latest).Lists
      (greedyEnds ends least most fuel count latest) := by
  intro next go follows state
  induction fuel generalizing count latest state with
  | zero => rfl
  | succ fuel ih =>
    have again (latest : Option Nat) :
        Follows (Matcher.greedy body least most fuel (count + 1) latest next) fun spot =>
          (greedyEnds ends least most fuel (count + 1) latest spot).findSome? go :=
      fun state => ih (count + 1) latest state
    simp only [Matcher.greedy, greedyEnds]
    split
    · rw [Attempt.spot?_failAt, lists _ _ (again latest), findSome?_flatMap]
      rfl
    -- The ends after one more repetition come in front of the one end without it.
    · have stopping : ((next state.note).failAt state.toPlace).spot? = go state.spot := by
        rw [Attempt.spot?_failAt]
        exact follows state.note
      have going := lists _ _ (again (some state.position)) state.note
      have allowed : Matcher.mayRepeat most count latest state =
          (most.all (count < ·) && latest != some state.spot.position) := rfl
      rw [List.findSome?_append, List.findSome?_singleton, ← stopping, allowed]
      cases most.all (count < ·) && latest != some state.spot.position with
      | false => rfl
      | true =>
        simp only [if_true]
        rw [findSome?_flatMap]
        refine Eq.trans ?_ (congrArg (Option.or · _) going)
        cases body _ state.note <;> rfl

/-- The ends of an optional body: those of the body, then the spot itself. -/
theorem Lists.optional {body : Matcher} {ends : Spot → List Spot} (lists : body.Lists ends)
    (groups : Option Nat) :
    (Matcher.loop 0 (some 1) .greedy groups body).Lists fun spot => ends spot ++ [spot] := by
  intro next go follows state
  have fewest : Matcher.required 0 groups state.toPlace = 0 := by
    cases groups <;> simp [Matcher.required]
  have unfolded (fuel : Nat) (spot : Spot) :
      greedyEnds ends 0 (some 1) (fuel + 2) 0 none spot = ends spot ++ [spot] := by
    simp [greedyEnds]
  simp only [Matcher.loop, fewest]
  rw [lists.greedy 0 _ _ 0 none next go follows state]
  exact congrArg (List.findSome? go) (unfolded _ _)

/-- Every end lies further on, with less text to follow. -/
def Advances (ends : Spot → List Spot) : Prop :=
  ∀ spot, ∀ ended ∈ ends spot,
    spot.position < ended.position ∧ ended.after.length < spot.after.length

/-- The ends of an unbounded repetition of a body that moves the place. -/
def starEnds (ends : Spot → List Spot) (spot : Spot) : List Spot :=
  greedyEnds ends 0 none (spot.after.length + 1) 0 none spot

/-- Once there is more fuel than characters are left, neither the fuel nor the repetitions before
change what is left to do. -/
theorem greedyEnds_congr {ends : Spot → List Spot} (advances : Advances ends)
    (fuel other count count' : Nat) (latest latest' : Option Nat) (spot : Spot)
    (enough : spot.after.length < fuel) (enough' : spot.after.length < other)
    (moved : latest ≠ some spot.position) (moved' : latest' ≠ some spot.position) :
    greedyEnds ends 0 none fuel count latest spot =
      greedyEnds ends 0 none other count' latest' spot := by
  induction fuel generalizing other count count' latest latest' spot with
  | zero => omega
  | succ fuel ih =>
    obtain ⟨other, rfl⟩ : ∃ n, other = n + 1 := ⟨other - 1, by omega⟩
    have further : (ends spot).flatMap
          (greedyEnds ends 0 none fuel (count + 1) (some spot.position)) =
        (ends spot).flatMap
          (greedyEnds ends 0 none other (count' + 1) (some spot.position)) := by
      apply List.flatMap_congr
      intro ended found
      obtain ⟨ahead, shorter⟩ := advances spot ended found
      have left : some spot.position ≠ some ended.position := by
        rw [ne_eq, Option.some.injEq]
        omega
      exact ih other _ _ _ _ ended (by omega) (by omega) left left
    simp [greedyEnds, moved, moved', further]

/-- A repetition unfolds into one more repetition or none. -/
theorem starEnds_eq {ends : Spot → List Spot} (advances : Advances ends) (spot : Spot) :
    starEnds ends spot = (ends spot).flatMap (starEnds ends) ++ [spot] := by
  have further : (ends spot).flatMap
        (greedyEnds ends 0 none spot.after.length 1 (some spot.position)) =
      (ends spot).flatMap (starEnds ends) := by
    apply List.flatMap_congr
    intro ended found
    obtain ⟨ahead, shorter⟩ := advances spot ended found
    have left : some spot.position ≠ some ended.position := by
      rw [ne_eq, Option.some.injEq]
      omega
    exact greedyEnds_congr advances _ _ _ _ _ _ ended shorter (by omega) left (by simp)
  rw [starEnds, greedyEnds]
  simp [further]

/-- The ends of an unbounded greedy repetition of a body that moves the place. -/
theorem Lists.star {body : Matcher} {ends : Spot → List Spot} (lists : body.Lists ends)
    (advances : Advances ends) (groups : Option Nat) :
    (Matcher.loop 0 none .greedy groups body).Lists (starEnds ends) := by
  intro next go follows state
  have fewest : Matcher.required 0 groups state.toPlace = 0 := by
    cases groups <;> simp [Matcher.required]
  simp only [Matcher.loop, fewest]
  rw [lists.greedy 0 _ _ 0 none next go follows state]
  have same := greedyEnds_congr advances (0 + state.position + state.after.length + 2)
    (state.after.length + 1) 0 0 none none state.spot
    (show state.after.length < _ by omega) (show state.after.length < _ by omega)
    (by simp) (by simp)
  exact congrArg (List.findSome? go) same

end Matcher

end RoutePattern.Regex
