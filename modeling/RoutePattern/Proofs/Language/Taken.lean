import Mathlib.Order.CompletePartialOrder
import RoutePattern.Proofs.Language.Expression
import RoutePattern.Proofs.Matching.Upheld

/-!
# What a regular expression has taken

Wherever a regular expression goes on, it has taken a text of its language, and if it has no groups
it leaves those around it as they are (`Expr.takes`). So a group around such an expression has
matched a text of the language whenever it is closed (`Matcher.Takes.upholds_group`).
-/
namespace RoutePattern.Regex

/-- A place comes after fewer texts if less is asked for where they end. -/
theorem Before.imp {language : Language Char} {good other : Place → Prop} {place : Place}
    (found : Before language good place) (less : ∀ place, good place → other place) :
    Before language other place := by
  obtain ⟨taken, member, rest, cut, here⟩ := found
  exact ⟨taken, member, rest, cut, less _ here⟩

/-- A state comes after a text of a language, counted from an earlier state, and has the groups of
this state. -/
structure Later (text : Text) (language : Language Char) (origin state : State) : Prop where
  inside : Matcher.Inside text state
  slots : state.slots = origin.slots
  taken : Before language (· = state.toPlace) origin.toPlace

namespace Later

variable {text : Text} {one two language : Language Char} {origin middle state : State}

/-- Nothing has been taken yet. -/
theorem refl (inside : Matcher.Inside text origin) : Later text 1 origin origin :=
  ⟨inside, rfl, before_one.2 rfl⟩

/-- One text after the other. -/
theorem trans (first : Later text one origin middle) (second : Later text two middle state) :
    Later text (one * two) origin state := by
  refine ⟨second.inside, second.slots.trans first.slots, before_mul.2 ?_⟩
  refine first.taken.imp fun place here => ?_
  rw [here]
  exact second.taken

/-- More texts. -/
theorem mono (later : Later text one origin state) (more : one ≤ two) :
    Later text two origin state := by
  obtain ⟨taken, member, ended⟩ := later.taken
  exact ⟨later.inside, later.slots, taken, more member, ended⟩

/-- From a state that is the same but for the place noted there. -/
theorem ofNoted {place : Place}
    (later : Later text language { origin with noted := place } state) :
    Later text language origin state := ⟨later.inside, later.slots, later.taken⟩

end Later

/-- A matcher goes on after texts of a language only, and leaves the groups as they are. -/
def Matcher.Takes (matcher : Matcher) (language : Language Char) : Prop :=
  ∀ (text : Text) (ends : State → Prop) (next : Continuation) (origin : State),
    Inside text origin →
    (∀ state, Later text language origin state → (next state).Meets (·.text = text) ends) →
      (matcher next origin).Meets (·.text = text) ends

namespace Matcher

variable {one two body : Matcher} {language other : Language Char} {least : Nat}
  {most : Option Nat}

/-- Going on at once. -/
theorem takes_id : Takes (fun next => next) 1 :=
  fun _ _ _ origin inside follows => follows origin (.refl inside)

/-- A matcher that may take more texts. -/
theorem Takes.mono (takes : body.Takes language) (more : language ≤ other) : body.Takes other :=
  fun text ends next origin inside follows => takes text ends next origin inside
    fun state found => follows state (found.mono more)

/-- One character of a class. -/
theorem takes_one (accepts : Char → Bool) : (Matcher.one accepts).Takes (letters accepts) := by
  intro text ends next origin inside follows
  unfold Matcher.one
  split
  · exact inside.2
  · next c rest cut =>
    split
    · next accepted =>
      have step : Inside text (origin.step c rest) := by
        refine ⟨?_, inside.2⟩
        have here := inside.1
        rw [Place.text, cut] at here
        simpa [State.step, Place.text] using here
      exact follows _ ⟨step, rfl, before_letters.2 ⟨c, rest, cut, accepted, rfl⟩⟩
    · exact inside.2

/-- One matcher after the other. -/
theorem Takes.seq (first : one.Takes language) (second : two.Takes other) :
    (one.seq two).Takes (language * other) := by
  intro text ends next origin inside follows
  refine first text ends (two next) origin inside fun middle here => ?_
  exact second text ends next middle here.inside fun state later => follows state (here.trans later)

/-- From another place noted. -/
theorem Takes.renote (takes : body.Takes language) {text : Text} {ends : State → Prop}
    {next : Continuation} {origin : State} (inside : Inside text origin) {place : Place}
    (noted : place.text = text)
    (follows : ∀ state, Later text language origin state →
      (next state).Meets (·.text = text) ends) :
    (body next { origin with noted := place }).Meets (·.text = text) ends :=
  takes text ends next _ ⟨inside.1, noted⟩ fun state found => follows state found.ofNoted

/-- A matcher that is tried if the text may go on as it asks. -/
theorem Takes.offered (takes : body.Takes language) (lead : Lead) :
    (Matcher.offered lead body).Takes language := by
  intro text ends next origin inside follows
  unfold Matcher.offered
  split
  · exact takes.renote inside inside.1 follows
  · exact inside.2

/-- One matcher or, failing that, another one. -/
theorem Takes.alt (first : one.Takes language) (second : two.Takes other) :
    (one.alt two).Takes (language + other) := by
  intro text ends next origin inside follows
  have meets := first text ends next origin inside fun state found =>
    follows state (found.mono fun _ => .inl)
  unfold Matcher.alt
  cases attempt : one next origin with
  | matched ended => exact meets.matched attempt
  | failed place =>
    exact second.renote inside (meets.failed attempt) fun state found =>
      follows state (found.mono fun _ => .inr)

/-- Repetitions of one character. -/
theorem takes_chars (charTest : CharTest) (least : Nat) (most : Option Nat) (appetite : Appetite)
    (lead : Lead) : (Matcher.chars charTest least most appetite lead).Takes
      (times (letters charTest.accepts) least most) := by
  intro text ends next origin inside follows
  refine meets_chars (fun limit place found => ?_) inside.2 fun place found last noted => ?_
  · exact (Place.text_of_mem_run found).trans inside.1
  · have here := (Place.text_of_mem_run (List.mem_of_mem_drop found)).trans inside.1
    exact follows _ ⟨⟨here, noted⟩, rfl, before_times_letters.2 ⟨place, found, rfl⟩⟩

/-! ## Repetitions of other expressions -/

/-- The texts that are left to take where a count of repetitions have gone before. -/
def remaining (language : Language Char) (least : Nat) (most : Option Nat) (count : Nat) :
    Language Char :=
  {text | ∃ more, least ≤ count + more ∧ most.all (count + more ≤ ·) = true ∧
    text ∈ language ^ more}

/-- One more repetition and those that are left after it. -/
theorem mul_remaining_le (count : Nat) :
    language * remaining language least most (count + 1) ≤
      remaining language least most count := by
  intro text found
  obtain ⟨first, mem, later, ⟨more, enough, few, mem'⟩, rfl⟩ := Language.mem_mul.1 found
  have sum : count + 1 + more = count + (more + 1) := by omega
  rw [sum] at enough few
  exact ⟨more + 1, enough, few, mem_pow_succ.2 ⟨first, mem, later, mem', rfl⟩⟩

/-- No more repetition, where there have been enough of them. -/
theorem one_le_remaining {count : Nat} (enough : least ≤ count)
    (few : most.all (count ≤ ·) = true) : 1 ≤ remaining language least most count :=
  fun _ empty => ⟨0, enough, few, empty⟩

/-- All repetitions are left at first. -/
theorem remaining_zero : remaining language least most 0 = times language least most := by
  ext text
  simp only [remaining, times, Nat.zero_add]

/-- Where a repetition is allowed, the count of it is, too. -/
theorem all_max_of_mayRepeat {count : Nat} {latest : Option Nat} {state : State}
    (enough : least ≤ count) (may : mayRepeat most count latest state = true) :
    most.all (max (count + 1) least ≤ ·) = true := by
  have more := (mayRepeat_iff.1 may).1
  cases most with
  | none => rfl
  | some most =>
    simp only [Option.all_some, decide_eq_true_eq] at more ⊢
    omega

/-- Stopping, where there have been enough repetitions. -/
theorem takes_stop {count : Nat} (enough : least ≤ count) (few : most.all (count ≤ ·) = true) :
    Takes (fun next => next) (remaining language least most count) :=
  takes_id.mono (one_le_remaining enough few)

section Loops

variable (takes : body.Takes language)
include takes

/-- One more repetition, in front of those that are left after it. -/
theorem Takes.further {loop : Matcher} {count : Nat}
    (later : loop.Takes (remaining language least most (count + 1))) :
    (body.seq loop).Takes (remaining language least most count) :=
  (takes.seq later).mono (mul_remaining_le count)

/-- As many repetitions as possible. -/
theorem Takes.greedy (fuel count : Nat) (latest : Option Nat)
    (ordered : most.all (max count least ≤ ·) = true) :
    (Matcher.greedy body least most fuel count latest).Takes
      (remaining language least most count) := by
  induction fuel generalizing count latest with
  | zero => exact fun _ _ _ _ inside _ => inside.1
  | succ fuel ih =>
    intro text ends next origin inside follows
    have more (latest : Option Nat) (ordered : most.all (max (count + 1) least ≤ ·) = true) :=
      (takes.further (ih (count + 1) latest ordered)).renote inside inside.1 follows
    unfold Matcher.greedy
    split
    · next fewer =>
      rw [max_eq_right (Nat.le_of_lt fewer)] at ordered
      exact (more latest (by rwa [max_eq_right fewer])).failAt inside.1
    · next enough =>
      have enough := Nat.le_of_not_lt enough
      rw [max_eq_left enough] at ordered
      have ending := ((takes_stop enough ordered).renote inside inside.1 follows).failAt inside.1
      split
      · next ended attempt =>
        split at attempt
        · next may => exact (more _ (all_max_of_mayRepeat enough may)).matched attempt
        · exact absurd attempt (by simp)
      · exact ending

/-- As few repetitions as possible. -/
theorem Takes.lazy (fuel count : Nat) (latest : Option Nat)
    (ordered : most.all (max count least ≤ ·) = true) :
    (Matcher.lazy body least most fuel count latest).Takes
      (remaining language least most count) := by
  induction fuel generalizing count latest with
  | zero => exact fun _ _ _ _ inside _ => inside.1
  | succ fuel ih =>
    intro text ends next origin inside follows
    have more (latest : Option Nat) (ordered : most.all (max (count + 1) least ≤ ·) = true) :=
      (takes.further (ih (count + 1) latest ordered)).renote inside inside.1 follows
    unfold Matcher.lazy
    split
    · next fewer =>
      rw [max_eq_right (Nat.le_of_lt fewer)] at ordered
      exact (more latest (by rwa [max_eq_right fewer])).failAt inside.1
    · next enough =>
      have enough := Nat.le_of_not_lt enough
      rw [max_eq_left enough] at ordered
      have ending := (takes_stop enough ordered).renote inside inside.1 follows
      split
      · next ended attempt => exact ending.matched attempt
      · split
        · next may => exact (more _ (all_max_of_mayRepeat enough may)).failAt inside.1
        · exact inside.1

/-- Repetitions that may be given up again. -/
theorem Takes.loop (ordered : most.all (least ≤ ·) = true) {appetite : Appetite}
    (loose : appetite ≠ .possessive) (groups : Option Nat) :
    (Matcher.loop least most appetite groups body).Takes (times language least most) := by
  intro text ends next origin inside follows
  have fewer : required least groups origin.toPlace ≤ least := by
    cases groups with
    | none => exact Nat.le_refl _
    | some groups => exact Nat.min_le_left ..
  have allowed := all_map_sub ordered fewer
  have follows' (state : State)
      (found : Later text (times language (required least groups origin.toPlace)
        (most.map (· - (least - required least groups origin.toPlace)))) origin state) :
      (next state).Meets (·.text = text) ends :=
    follows state
      ⟨found.inside, found.slots, (before_times_required groups ordered).1 found.taken⟩
  unfold Matcher.loop
  simp only
  generalize required least groups origin.toPlace = fewest at allowed follows'
  rw [← remaining_zero] at follows'
  cases appetite with
  | greedy =>
    exact takes.greedy _ 0 none (by rwa [Nat.zero_max]) text ends next origin inside follows'
  | lazy =>
    exact takes.lazy _ 0 none (by rwa [Nat.zero_max]) text ends next origin inside follows'
  | possessive => exact absurd rfl loose

end Loops

/-- A group has matched a text that its body takes. -/
theorem Takes.upholds_group {text : Text} {fits : Text → Prop} (takes : body.Takes language)
    (all : ∀ taken ∈ language, fits taken) (index : Nat) :
    (Matcher.group index body).Upholds text (Fits text fits index) := by
  intro ends next follows state upheld
  refine takes text ends _ (state.openGroup index) upheld.inside fun ended found => ?_
  obtain ⟨taken, member, rest, cut, place⟩ := found.taken
  refine follows _ ⟨found.inside, ?_⟩
  exact Fits.closed upheld.inside.1 cut place.symm found.slots (all taken member)

end Matcher

/-- A regular expression without groups takes the texts of its language. -/
theorem Expr.takes {expr : Expr} (regular : expr.isRegular = true) (free : expr.groupCount = 0)
    (flags : Flags) (lead : Lead) : (expr.matcher flags lead).Takes (expr.language flags) := by
  induction expr generalizing lead with
  | empty => exact Matcher.takes_id
  | char _ | notChar _ | any | set _ _ => exact Matcher.takes_one _
  | seq first second one two =>
    rw [isRegular, Bool.and_eq_true] at regular
    obtain ⟨free, free'⟩ := Nat.add_eq_zero_iff.1 free
    exact (one regular.1 free _).seq (two regular.2 free' lead)
  | alt first second one two =>
    rw [isRegular, Bool.and_eq_true] at regular
    obtain ⟨free, free'⟩ := Nat.add_eq_zero_iff.1 free
    have later := two regular.2 free' .undecided
    refine ((one regular.1 free .undecided).offered _).alt ?_
    split
    · exact later
    · exact later.offered _
  | group index body ih => exact absurd free (Nat.succ_ne_zero _)
  | loop least most appetite body ih =>
    simp only [isRegular, Bool.and_eq_true, bne_iff_ne] at regular
    obtain ⟨⟨inside, loose⟩, ordered⟩ := regular
    rw [matcher, language]
    split
    · next charTest single =>
      rw [language_of_single inside single]
      exact Matcher.takes_chars charTest least most appetite lead
    · exact (ih inside free _).loop ordered loose _
  | anchor _ | flagged _ _ _ | atomic _ _ | ahead _ _ _ | behind _ _ _ _ | again _
  | ifGroup _ _ _ _ _ => exact absurd regular Bool.false_ne_true

end RoutePattern.Regex
