import RoutePattern.Proofs.Matching.Comparison.Expression
import RoutePattern.Proofs.Matching.ExprStops

/-!
# Stops that lead to the same

Two rows of stops may differ in what comes again, and still lead to the same wherever the rest goes
on from them (`Agree`). Agreement is kept by all ways of building expressions, and the stops of an
alternation agree with those of its branches, one after the other (`Expr.agree_alternation`),
although what all branches begin with is asked for once, and branches of one character are made a
set.
-/
namespace RoutePattern.Regex

/-- From every place the stops of both lead to the same. -/
def Agree (one two : Place → List Place) : Prop :=
  ∀ place (goal : Place → Option Place), (one place).findSome? goal = (two place).findSome? goal

namespace Agree

variable {one two three others : Place → List Place}

/-- Stops agree with themselves. -/
theorem refl (stops : Place → List Place) : Agree stops stops := fun _ _ => rfl

/-- Stops that agree with the same agree. -/
theorem trans (first : Agree one two) (second : Agree two three) : Agree one three :=
  fun place goal => (first place goal).trans (second place goal)

/-- Agreement goes both ways. -/
theorem symm (agree : Agree one two) : Agree two one := fun place goal => (agree place goal).symm

/-- One after the other. -/
theorem flatMap (first : Agree one two) (second : Agree three others) :
    Agree (fun place => (one place).flatMap three) fun place => (two place).flatMap others := by
  intro place goal
  rw [findSome?_flatMap, findSome?_flatMap, first]
  exact findSome?_congr fun stop _ => second stop goal

/-- One or, failing that, the other. -/
theorem append (first : Agree one two) (second : Agree three others) :
    Agree (fun place => one place ++ three place) fun place => two place ++ others place := by
  intro place goal
  rw [List.findSome?_append, List.findSome?_append, first, second]

/-- The first stops are the same. -/
theorem head?_eq (agree : Agree one two) (place : Place) :
    (one place).head? = (two place).head? := by
  have some (stops : List Place) : stops.findSome? Option.some = stops.head? := by
    cases stops <;> rfl
  rw [← some, ← some]
  exact agree place _

/-- There are stops of both, or of none. -/
theorem isEmpty_eq (agree : Agree one two) (place : Place) :
    (one place).isEmpty = (two place).isEmpty := by
  have first := agree.head?_eq place
  cases stops : one place <;> cases others : two place <;> simp_all

/-- The first stop alone. -/
theorem head? (agree : Agree one two) :
    Agree (fun place => (one place).head?.toList) fun place => (two place).head?.toList := by
  intro place goal
  dsimp only
  rw [agree.head?_eq]

/-- A look from another place. -/
theorem look (agree : Agree one two) (negated : Bool) (start : Place → Option Place) :
    Agree (fun place => Matcher.lookStop negated one (start place) place)
      fun place => Matcher.lookStop negated two (start place) place := by
  intro place goal
  simp only [Matcher.lookStop, agree.isEmpty_eq]

/-- Several repetitions. -/
theorem repeatStops (agree : Agree one two) (lazy : Bool) (least : Nat) (most : Option Nat)
    (fuel count : Nat) (latest : Option Nat) :
    Agree (Matcher.repeatStops lazy one least most fuel count latest)
      (Matcher.repeatStops lazy two least most fuel count latest) := by
  induction fuel generalizing count latest with
  | zero => exact fun place goal => rfl
  | succ fuel ih =>
    have further (place : Place) (latest : Option Nat) (goal : Place → Option Place) :
        ((one place).flatMap
          (Matcher.repeatStops lazy one least most fuel (count + 1) latest)).findSome? goal =
        ((two place).flatMap
          (Matcher.repeatStops lazy two least most fuel (count + 1) latest)).findSome? goal :=
      agree.flatMap (ih (count + 1) latest) place goal
    intro place goal
    simp only [Matcher.repeatStops]
    split
    · exact further place latest goal
    · cases most.all (count < ·) && latest != some place.position with
      | false => rfl
      | true =>
        cases lazy
        · simp only [if_true, Bool.false_eq_true, if_false, List.findSome?_append, further]
        · simp only [if_true, List.findSome?_cons, further]

/-- Repetitions that may be given up again. -/
theorem loopStops (agree : Agree one two) (lazy : Bool) (least : Nat) (most : Option Nat) :
    Agree (Matcher.loopStops lazy one least most) (Matcher.loopStops lazy two least most) :=
  fun place => agree.repeatStops lazy least most _ 0 none place

end Agree

namespace Expr

variable {flags : Flags}

/-- A row stops where its beginning and then the rest stop. -/
theorem stops_sequence_append (one two : List Expr) (place : Place) :
    (sequence (one ++ two)).stops flags place =
      ((sequence one).stops flags place).flatMap ((sequence two).stops flags) := by
  induction one generalizing place with
  | nil => simp [sequence, stops]
  | cons part one ih =>
    show ((part.stops flags place).flatMap ((sequence (one ++ two)).stops flags)) = _
    simp only [funext ih]
    exact (List.flatMap_assoc ..).symm

/-- A row of one part stops where the part does. -/
@[simp] theorem stops_sequence_singleton (part : Expr) :
    (sequence [part]).stops flags = part.stops flags := by
  funext place
  simp [sequence, stops]

/-- The stops of several branches, one after the other. -/
def branchStops (flags : Flags) (branches : List (List Expr)) (place : Place) : List Place :=
  branches.flatMap fun branch => (sequence branch).stops flags place

/-- A choice stops where its expressions do. -/
theorem stops_choice (first : Expr) (others : List Expr) (place : Place) :
    (choice first others).stops flags place =
      (first :: others).flatMap fun expr => expr.stops flags place := by
  induction others generalizing first with
  | nil => simp [choice]
  | cons second others ih => simp [choice, stops, ih]

/-- A row of parts that ask for one thing each stops at one place, or at none. -/
theorem stops_of_all_isPlain {parts : List Expr} (plain : ∀ part ∈ parts, part.isPlain = true)
    (place : Place) : ∃ stop : Option Place, (sequence parts).stops flags place = stop.toList := by
  induction parts generalizing place with
  | nil => exact ⟨some place, rfl⟩
  | cons part parts ih =>
    obtain ⟨here, later⟩ := List.forall_mem_cons.1 plain
    have single {condition : Prop} [Decidable condition] (stop : Place) :
        ∃ last : Option Place, (if condition then [stop] else []) = last.toList := by
      split
      · exact ⟨some stop, rfl⟩
      · exact ⟨none, rfl⟩
    have one (accepts : Char → Bool) :
        ∃ last : Option Place, Matcher.oneStop accepts place = last.toList := by
      unfold Matcher.oneStop
      split
      · exact ⟨none, rfl⟩
      · exact single _
    -- One thing is there or not, so the first part leaves at most one place for the others.
    obtain ⟨stop, first⟩ : ∃ stop : Option Place, part.stops flags place = stop.toList := by
      cases part with
      | char _ | notChar _ | any | set _ _ => exact one _
      | anchor edge => exact single place
      | again index => exact ⟨none, rfl⟩
      | _ => exact absurd here Bool.false_ne_true
    show ∃ last : Option Place, (part.stops flags place).flatMap _ = last.toList
    rw [first]
    cases stop with
    | none => exact ⟨none, rfl⟩
    | some stop =>
      rw [Option.toList_some, List.flatMap_singleton]
      exact ih later stop

/-- What follows a common beginning may be replaced by the ends of the branches. -/
theorem agree_common {common : List Expr} (plain : ∀ part ∈ common, part.isPlain = true)
    {last : Expr} {branches : List (List Expr)}
    (agree : Agree (last.stops flags) (branchStops flags branches)) :
    Agree ((sequence (common ++ [last])).stops flags)
      (branchStops flags (branches.map (common ++ ·))) := by
  intro place goal
  obtain ⟨stop, begins⟩ : ∃ stop : Option Place,
      (sequence common).stops flags place = stop.toList := stops_of_all_isPlain plain place
  simp only [branchStops, List.flatMap_map, stops_sequence_append, begins,
    stops_sequence_singleton]
  cases stop with
  | none =>
    have nothing : branches.flatMap (fun _ => ([] : List Place)) = [] :=
      List.flatMap_eq_nil_iff.2 fun _ _ => rfl
    simp [nothing]
  | some stop => simpa [branchStops] using agree stop goal

/-- A branch of one character, as items of a set. -/
theorem stops_of_branchItems? (regard : flags.ignoreCase = false) {branch : List Expr}
    {items : List SetItem} (found : branchItems? branch = some items) :
    (sequence branch).stops flags =
      Matcher.oneStop fun c => items.any (·.holds flags c.toNat) := by
  unfold branchItems? at found
  split at found
  · obtain rfl := Option.some.inj found
    rw [stops_sequence_singleton]
    funext place
    simp [stops, sameCode, regard, SetItem.holds]
  · obtain rfl := Option.some.inj found
    rw [stops_sequence_singleton]
    funext place
    simp [stops, setHolds, regard]
  · exact absurd found (by simp)

/-- A character of one class or, failing that, of another one. -/
theorem agree_or (one two : Char → Bool) :
    Agree (Matcher.oneStop fun c => one c || two c)
      fun place => Matcher.oneStop one place ++ Matcher.oneStop two place := by
  rintro ⟨before, _ | ⟨c, rest⟩⟩ goal
  · rfl
  · cases first : one c <;> cases second : two c <;> 
      simp [Matcher.oneStop, first, second, List.findSome?_cons]
    cases goal _ <;> rfl

/-- Branches of one character each are one set. -/
theorem agree_of_mapM_branchItems? (regard : flags.ignoreCase = false)
    {branches : List (List Expr)} {items : List (List SetItem)}
    (found : branches.mapM branchItems? = some items) :
    Agree ((set false items.flatten.eraseDups).stops flags) (branchStops flags branches) := by
  have merged : (set false items.flatten.eraseDups).stops flags =
      Matcher.oneStop fun c => items.flatten.any (·.holds flags c.toNat) :=
    congrArg Matcher.oneStop (funext fun c => setHolds_merged regard items c.toNat)
  rw [merged]
  clear merged
  induction branches generalizing items with
  | nil =>
    obtain rfl := Option.some.inj found
    rintro ⟨before, _ | ⟨c, rest⟩⟩ goal <;> rfl
  | cons branch branches ih =>
    rw [List.mapM_cons] at found
    obtain ⟨first, here, later⟩ := Option.bind_eq_some_iff.1 found
    obtain ⟨others, there, same⟩ := Option.bind_eq_some_iff.1 later
    obtain rfl := Option.some.inj same
    have split : Agree (Matcher.oneStop fun c => (first :: others).flatten.any
          (·.holds flags c.toNat))
        fun place => Matcher.oneStop (fun c => first.any (·.holds flags c.toNat)) place ++
          Matcher.oneStop (fun c => others.flatten.any (·.holds flags c.toNat)) place := by
      simp only [List.flatten_cons, List.any_append]
      exact agree_or _ _
    rw [← stops_of_branchItems? regard here] at split
    exact split.trans ((Agree.refl _).append (ih there))

/-- What is made of several branches: a set of single characters, or a choice. -/
inductive Merges : List (List Expr) → Expr → Prop
  | set {branches : List (List Expr)} {items : List (List SetItem)}
    (single : branches.mapM branchItems? = some items) :
    Merges branches (.set false items.flatten.eraseDups)
  | choice (first : List Expr) (others : List (List Expr)) :
    Merges (first :: others) (Expr.choice (sequence first) (others.map sequence))

/-- An alternation of several branches is what they all begin with, followed by what is made of
the rest of each. -/
theorem alternation_cases {branches : List (List Expr)} (some : branches ≠ []) :
    branches = [alternation branches] ∨ ∃ common rest last, rest ≠ [] ∧
      branches = rest.map (common ++ ·) ∧ (∀ part ∈ common, part.isPlain = true) ∧
        Merges rest last ∧ alternation branches = common ++ [last] := by
  fun_cases alternation branches with
  | case1 => exact absurd rfl some
  | case2 branch => exact .inl rfl
  | case3 first others _ common rest factored items single =>
    have whole := @factor_append first others
    have plain := @isPlain_common first others
    rw [factored] at whole plain
    refine .inr ⟨common, rest, _, ?_, whole.symm, plain, .set single, rfl⟩
    rintro rfl
    exact absurd whole (by simp)
  | case4 first others _ common rest factored one more mapped _ =>
    have whole := @factor_append first others
    have plain := @isPlain_common first others
    rw [factored] at whole plain
    cases rest with
    | nil => exact absurd mapped (by simp)
    | cons branch rest =>
      obtain ⟨rfl, rfl⟩ := List.cons.inj mapped
      exact .inr ⟨common, branch :: rest, _, by simp, whole.symm, plain, .choice branch rest, rfl⟩
  | case5 first others _ common rest factored mapped _ =>
    have whole := @factor_append first others
    rw [factored, List.map_eq_nil_iff.1 mapped] at whole
    exact absurd whole (by simp)

/-- The stops of an alternation agree with those of its branches, one after the other. -/
theorem agree_alternation (regard : flags.ignoreCase = false) {branches : List (List Expr)}
    (some : branches ≠ []) :
    Agree ((sequence (alternation branches)).stops flags) (branchStops flags branches) := by
  obtain alone | ⟨common, rest, last, -, whole, plain, merges, joined⟩ := alternation_cases some
  · intro place goal
    conv => rhs; rw [alone]
    simp [branchStops]
  · rw [joined, whole]
    refine agree_common plain ?_
    cases merges with
    | set single => exact agree_of_mapM_branchItems? regard single
    | choice first others =>
      intro place goal
      rw [stops_choice, ← List.map_cons (f := sequence), List.flatMap_map]
      rfl

end Expr

end RoutePattern.Regex
