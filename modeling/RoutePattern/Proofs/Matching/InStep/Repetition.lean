import RoutePattern.Proofs.Matching.Comparison.Repetition
import RoutePattern.Proofs.Matching.InStep.Matcher

/-!
# Repetitions in step

Repetitions of one character count the same characters of the text if the classes agree on them.
Other repetitions are in step if their bodies are. Only those that are final need bodies that are
exactly in step: they end where the repetition that fails has noted a place (`Matcher.exhaust`).
-/
namespace RoutePattern.Regex

/-- Two tests of a character agree on a text, and go through lists alike where the places that they
note matter. -/
structure CharTest.Likewise (exact : Bool) (text : Text) (charTest other : CharTest) : Prop where
  agree : ∀ c ∈ text, other.accepts c = charTest.accepts c
  listed : exact = true → other.listed = charTest.listed

/-- A run of characters is the same for classes that agree on them. -/
theorem Place.run_congr {accepts also : Char → Bool} {after : Text}
    (agree : ∀ c ∈ after, also c = accepts c) (most : Option Nat) (before : Text) :
    run also most before after = run accepts most before after := by
  induction after generalizing most before with
  | nil => rfl
  | cons c after ih =>
    obtain ⟨here, later⟩ := List.forall_mem_cons.1 agree
    rw [run, run, here, ih later]

variable {exact : Bool} {text : Text} {s t : State}

/-- The states after the characters that tests accept have been counted. -/
theorem Abreast.noteLast (abreast : Abreast exact text s t) {places : List Place}
    (inside : ∀ place ∈ places, place.text = text) {listed listed' : Bool}
    (same : exact = true → listed' = listed) :
    Abreast exact text (if listed then { s with noted := places.getLastD s.toPlace } else s.note)
      (if listed' then { t with noted := places.getLastD t.toPlace } else t.note) := by
  refine ⟨Matcher.alike_noteLast abreast.toAlike inside listed listed' _, fun held => ?_⟩
  rw [same held, abreast.place]
  split
  · rfl
  · exact abreast.place

namespace Matcher

variable {lead other : Lead} {next after : Continuation}

/-! ## Repetitions of one character -/

/-- From several places of the text, of which those are left out from where the rest would fail. -/
theorem inStep_fromPlaces {places : List Place} {mayEnd mayEnd' : Place → Bool}
    (together : Together exact text next after) (inside : ∀ place ∈ places, place.text = text)
    (sound : ∀ place (state ended : State), next (state.goTo place) = .matched ended →
      mayEnd place = true)
    (sound' : ∀ place (state ended : State), after (state.goTo place) = .matched ended →
      mayEnd' place = true)
    (same : exact = true → ∀ place ∈ places, mayEnd' place = mayEnd place)
    (abreast : Abreast exact text s t) :
    (fromPlaces (places.filter mayEnd) next s).InStep exact text
      (fromPlaces (places.filter mayEnd') after t) := by
  induction places generalizing s t with
  | nil => exact abreast.failed
  | cons place places ih =>
    obtain ⟨here, rest⟩ := List.forall_mem_cons.1 inside
    have later {s t : State} (abreast : Abreast exact text s t) :=
      ih rest (fun held => (List.forall_mem_cons.1 (same held)).2) abreast
    have both := together _ _ (abreast.goTo here)
    rw [List.filter_cons, List.filter_cons]
    -- A place that only one side tries leads nowhere, since the rest fails there on the other side.
    by_cases tried : mayEnd place = true <;> by_cases tried' : mayEnd' place = true
    · rw [if_pos tried, if_pos tried', fromPlaces_cons, fromPlaces_cons]
      generalize next (s.goTo place) = first at both ⊢
      generalize after (t.goTo place) = second at both ⊢
      cases both with
      | failed noted equal => exact later (abreast.notePlaces noted equal)
      | matched ended => exact .matched ended
    · rw [if_pos tried, if_neg tried', fromPlaces_cons]
      generalize next (s.goTo place) = first at both ⊢
      generalize found : after (t.goTo place) = second at both
      cases both with
      | failed noted _ =>
        have differ (held : exact = true) : False :=
          tried' ((same held place (List.mem_cons_self ..)).trans tried)
        exact later (abreast.notePlaces noted fun held => (differ held).elim)
      | matched _ => exact absurd (sound' place t _ found) tried'
    · rw [if_neg tried, if_pos tried', fromPlaces_cons]
      generalize found : next (s.goTo place) = first at both
      generalize after (t.goTo place) = second at both ⊢
      cases both with
      | failed noted _ =>
        have differ (held : exact = true) : False :=
          tried ((same held place (List.mem_cons_self ..)).symm.trans tried')
        exact later (abreast.notePlaces abreast.noted fun held => (differ held).elim)
      | matched _ => exact absurd (sound place s _ found) tried
    · rw [if_neg tried, if_neg tried']
      exact later abreast

section Chars

variable {charTest charTest' : CharTest}

/-- As many characters as possible, then fewer. -/
theorem inStep_chars_greedy (likewise : charTest.Likewise exact text charTest') (least : Nat)
    (most : Option Nat) :
    (Matcher.chars charTest least most .greedy lead).InStep exact text lead other
      (Matcher.chars charTest' least most .greedy other) := by
  intro next after told s t abreast
  obtain ⟨noted, rfl⟩ := abreast.exists_noted
  have inside := abreast.text_of_mem_run charTest.accepts most
  have run := Place.run_congr (fun c found => likewise.agree c (abreast.mem_text found)) most s.before
  unfold Matcher.chars
  simp only [run]
  split
  · exact abreast.failed
  · refine inStep_fromPlaces told.together (fun place found => ?_) (fun place state ended found => ?_)
      (fun place state ended found => ?_) (fun held place found => ?_)
      (abreast.noteLast inside likewise.listed)
    · exact inside place (List.mem_of_mem_drop (List.mem_reverse.1 found))
    · have admitted := told.sound _ _ found
      cases lead with
      | char code => exact admitted
      | test accepts => rfl
      | undecided => rfl
    · have admitted := told.sound' _ _ found
      cases other with
      | char code => exact admitted
      | test accepts => rfl
      | undecided => rfl
    · cases told.likewise held with
      | char code => rfl
      | test agree => rfl
      | undecided => rfl

/-- As few characters as possible, then more. -/
theorem inStep_chars_lazy (likewise : charTest.Likewise exact text charTest') (least : Nat)
    (most : Option Nat) :
    (Matcher.chars charTest least most .lazy lead).InStep exact text lead other
      (Matcher.chars charTest' least most .lazy other) := by
  intro next after told s t abreast
  obtain ⟨noted, rfl⟩ := abreast.exists_noted
  have inside := abreast.text_of_mem_run charTest.accepts
  have run (limit : Option Nat) := Place.run_congr
    (fun c found => likewise.agree c (abreast.mem_text found)) limit s.before
  have tried : ∀ place ∈ (Place.run charTest.accepts most s.before s.after).drop least,
      place.text = text := fun place found => inside most place (List.mem_of_mem_drop found)
  have both := inStep_fromPlaces told.together tried (fun _ _ _ _ => rfl) (fun _ _ _ _ => rfl)
    (fun _ _ _ => rfl) abreast
  rw [List.filter_true] at both
  unfold Matcher.chars
  simp only [run]
  split
  · exact abreast.failed
  split
  · have counted := abreast.noteLast (inside (some least)) likewise.listed
    exact counted.failed
  generalize fromPlaces _ next s = first at both ⊢
  generalize fromPlaces _ after { s with noted := noted } = second at both ⊢
  cases both with
  | matched ended => exact .matched ended
  | failed _ _ =>
    refine .failed (Place.text_getLastD (fun place found => ?_) abreast.inside) fun held => ?_
    · split at found
      · exact inside _ place found
      · exact tried place found
    · rw [likewise.listed held]

/-- As many characters as possible for good. -/
theorem inStep_chars_possessive (likewise : charTest.Likewise exact text charTest') (least : Nat)
    (most : Option Nat) (asked asked' : Lead) :
    (Matcher.chars charTest least most .possessive asked).InStep exact text lead other
      (Matcher.chars charTest' least most .possessive asked') := by
  intro next after told s t abreast
  obtain ⟨noted, rfl⟩ := abreast.exists_noted
  have inside := abreast.text_of_mem_run charTest.accepts most
  have run := Place.run_congr (fun c found => likewise.agree c (abreast.mem_text found)) most s.before
  have counted := abreast.noteLast inside likewise.listed
  unfold Matcher.chars
  simp only [run]
  split
  · exact abreast.failed
  split
  · next place found =>
    have here := inside place (List.mem_of_mem_drop (List.mem_of_getLast? found))
    exact told.together _ _ ⟨⟨rfl, counted.slots, here, counted.noted⟩, counted.same⟩
  · exact counted.failed

/-- Repetitions of one character. -/
theorem inStep_chars (likewise : charTest.Likewise exact text charTest') (least : Nat)
    (most : Option Nat) (appetite : Appetite) :
    (Matcher.chars charTest least most appetite lead).InStep exact text lead other
      (Matcher.chars charTest' least most appetite other) := by
  cases appetite with
  | greedy => exact inStep_chars_greedy likewise least most
  | lazy => exact inStep_chars_lazy likewise least most
  | possessive => exact inStep_chars_possessive likewise least most lead other

end Chars

/-! ## Repetitions of other expressions -/

variable {body body' : Matcher}

/-- As many repetitions as possible. -/
theorem InStep.greedy (inStep : body.InStep exact text .undecided .undecided body') (fewest : Nat)
    (most : Option Nat) (fuel count : Nat) (latest : Option Nat)
    (together : Together exact text next after) :
    Together exact text (Matcher.greedy body fewest most fuel count latest next)
      (Matcher.greedy body' fewest most fuel count latest after) := by
  induction fuel generalizing count latest with
  | zero => exact fun _ _ abreast => abreast.failedHere
  | succ fuel ih =>
    intro s t abreast
    have place (_ : exact = true) : t.toPlace = s.toPlace := abreast.place
    have more (count : Nat) (latest : Option Nat) :=
      inStep _ _ (ih count latest).told _ _ abreast.note
    have ending := (together _ _ abreast.note).failAt abreast.inside place
    unfold Matcher.greedy
    simp only [mayRepeat_eq abreast.toAlike,
      show t.position = s.position from congrArg _ abreast.place]
    by_cases few : count < fewest
    · rw [if_pos few, if_pos few]
      exact (more ..).failAt abreast.inside place
    · rw [if_neg few, if_neg few]
      cases mayRepeat most count latest s with
      | false => exact ending
      | true =>
        have both := more (count + 1) (some s.position)
        simp only [if_true]
        -- Both attempts match, or both fail and stopping is tried on both sides.
        generalize body _ s.note = first at both ⊢
        generalize body' _ t.note = second at both ⊢
        cases both with
        | failed _ _ => exact ending
        | matched ended => exact .matched ended

/-- As few repetitions as possible. -/
theorem InStep.lazy (inStep : body.InStep exact text .undecided .undecided body') (fewest : Nat)
    (most : Option Nat) (fuel count : Nat) (latest : Option Nat)
    (together : Together exact text next after) :
    Together exact text (Matcher.lazy body fewest most fuel count latest next)
      (Matcher.lazy body' fewest most fuel count latest after) := by
  induction fuel generalizing count latest with
  | zero => exact fun _ _ abreast => abreast.failedHere
  | succ fuel ih =>
    intro s t abreast
    have place (_ : exact = true) : t.toPlace = s.toPlace := abreast.place
    have more (count : Nat) (latest : Option Nat) :=
      (inStep _ _ (ih count latest).told _ _ abreast.note).failAt abreast.inside place
    have ending := together _ _ abreast.note
    unfold Matcher.lazy
    simp only [mayRepeat_eq abreast.toAlike,
      show t.position = s.position from congrArg _ abreast.place]
    split
    · exact more ..
    · generalize next s.note = first at ending ⊢
      generalize after t.note = second at ending ⊢
      cases ending with
      | matched ended => exact .matched ended
      | failed _ _ =>
        simp only
        split
        · exact more ..
        · exact abreast.failedHere

/-- As many final repetitions as possible, of bodies that are exactly in step. -/
theorem InStep.exhaust (inStep : body.InStep true text .undecided .undecided body') (fewest : Nat)
    (most : Option Nat) (fuel count : Nat) (latest : Option Nat) :
    Together true text (Matcher.exhaust body fewest most fuel count latest)
      (Matcher.exhaust body' fewest most fuel count latest) := by
  induction fuel generalizing count latest with
  | zero => exact fun _ _ abreast => abreast.failedHere
  | succ fuel ih =>
    intro s t abreast
    have both := inStep.first abreast.note
    unfold Matcher.exhaust
    simp only [mayRepeat_eq abreast.toAlike,
      show t.position = s.position from congrArg _ abreast.place]
    generalize body.first s.note = first at both ⊢
    generalize body'.first t.note = second at both ⊢
    split
    · cases both with
      | failed inside same => exact .failed inside same
      | matched ended => exact ih _ _ _ _ ended
    · split
      · cases both with
        | failed inside same =>
          obtain rfl := same rfl
          exact .matched (abreast.goTo inside)
        | matched ended => exact ih _ _ _ _ ended
      · exact .matched abreast.note

/-- Repetitions, of bodies that are exactly in step where they are final. -/
theorem InStep.loop {appetite : Appetite}
    (inStep : body.InStep (exact || appetite == .possessive) text .undecided .undecided body')
    (least : Nat) (most : Option Nat) (groups : Option Nat) :
    (Matcher.loop least most appetite groups body).InStep exact text lead other
      (Matcher.loop least most appetite groups body') := by
  intro next after told s t abreast
  obtain ⟨noted, rfl⟩ := abreast.exists_noted
  unfold Matcher.loop
  simp only
  cases appetite with
  | greedy =>
    rw [show (Appetite.greedy == Appetite.possessive) = false from rfl, Bool.or_false] at inStep
    exact inStep.greedy _ _ _ 0 none told.together _ _ abreast
  | lazy =>
    rw [show (Appetite.lazy == Appetite.possessive) = false from rfl, Bool.or_false] at inStep
    exact inStep.lazy _ _ _ 0 none told.together _ _ abreast
  | possessive =>
    rw [show (Appetite.possessive == Appetite.possessive) = true from rfl, Bool.or_true] at inStep
    -- What has been noted before plays no part: every repetition notes its place first.
    rw [exhaust_eq abreast.toAlike]
    have both := inStep.exhaust (required least groups s.toPlace)
      (most.map (· - (least - required least groups s.toPlace)))
      (required least groups s.toPlace + s.position + s.after.length + 2) 0 none s s
      (.refl abreast.inside abreast.noted)
    generalize Matcher.exhaust body _ _ _ 0 none s = first at both ⊢
    generalize Matcher.exhaust body' _ _ _ 0 none s = second at both ⊢
    cases both with
    | failed _ _ => exact abreast.failedHere
    | matched ended => exact told.together _ _ ended.of_exact

end Matcher

end RoutePattern.Regex
