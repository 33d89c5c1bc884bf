import RoutePattern.Proofs.Matching.Comparison.Matcher

/-!
# Comparing repetitions

A repetition whose body is below another one is below its repetition, except that a possessive
repetition, being final, has to have the same body. Repetitions of one character are tried from
several places, and it is enough that every place from which the rest matches is tried
(`below_fromPlaces`).
-/
namespace RoutePattern.Regex.Matcher

variable {text : Text} {lead : Lead} {body body' : Matcher} {ends : State → Prop}
  {next after : Continuation} {s t : State}

/-! ## Repetitions of one character -/

/-- The first of several places is tried before the others. -/
theorem fromPlaces_cons (place : Place) (places : List Place) (next : Continuation)
    (state : State) : fromPlaces (place :: places) next state =
      match next (state.goTo place) with
      | .matched ended => .matched ended
      | .failed noted => fromPlaces places next { state with noted := noted } := rfl

/-- Trying several places matches if the rest matches from one of them. -/
theorem matched_fromPlaces {places : List Place} {place : Place} (tried : place ∈ places)
    {ended : State} (found : next (s.goTo place) = .matched ended) :
    ∃ state, fromPlaces places next s = .matched state := by
  induction places generalizing s with
  | nil => exact absurd tried List.not_mem_nil
  | cons first places ih =>
    rw [fromPlaces_cons]
    cases attempt : next (s.goTo first) with
    | matched state => exact ⟨state, rfl⟩
    | failed noted =>
      rcases List.mem_cons.1 tried with rfl | later
      · rw [attempt] at found
        exact absurd found (by simp)
      · exact @ih { s with noted := noted } later found

/-- Trying several places is below trying others, if every place of the one kind from which the
rest may match is of the other kind, too. -/
theorem below_fromPlaces {places others : List Place} (follows : Precedes text ends next after)
    (told : lead.Sound after) (inside : ∀ place ∈ places, place.text = text)
    (covered : ∀ place ∈ places, lead.admits place.after = true → place ∈ others)
    (alike : Alike text s t) :
    (fromPlaces places next s).Below text ends (fromPlaces others after t) := by
  induction places generalizing s with
  | nil => exact alike.noted
  | cons place places ih =>
    obtain ⟨here, later⟩ := List.forall_mem_cons.1 inside
    obtain ⟨this, rest⟩ := List.forall_mem_cons.1 covered
    have meets := follows _ _ (alike.goTo here)
    rw [fromPlaces_cons]
    cases attempt : next (s.goTo place) with
    | failed noted => exact ih later rest (alike.notePlaces (meets.failed attempt) t.noted)
    | matched ended =>
      obtain ⟨final, state, matched⟩ := meets.matched attempt
      exact ⟨final, matched_fromPlaces (this (told _ state matched)) matched⟩

/-- The states after the characters that a test accepts have been counted. -/
theorem alike_noteLast (alike : Alike text s t) {places : List Place}
    (inside : ∀ place ∈ places, place.text = text) (listed listed' : Bool) (other : Place) :
    Alike text (if listed then { s with noted := places.getLastD s.toPlace } else s.note)
      (if listed' then { t with noted := other } else t.note) := by
  have last := Place.text_getLastD inside alike.inside
  cases listed with
  | false =>
    cases listed' with
    | false => exact alike.note
    | true => exact alike.notePlaces alike.inside _
  | true =>
    cases listed' with
    | false => exact alike.notePlaces last _
    | true => exact alike.notePlaces last _

section Chars

variable {charTest wider : CharTest}

/-- As many characters of a wider class as possible. -/
theorem below_chars_greedy (accepts : ∀ c, charTest.accepts c = true → wider.accepts c = true)
    (least : Nat) (most : Option Nat) (asked : Lead) :
    (Matcher.chars charTest least most .greedy asked).Below text lead
      (Matcher.chars wider least most .greedy lead) := by
  intro ends next after follows told s t alike
  obtain ⟨other, rfl⟩ := alike.exists_noted
  have inside := alike.text_of_mem_run charTest.accepts most
  unfold Matcher.chars
  simp only
  split
  · exact alike.noted
  · refine below_fromPlaces follows told (fun place found => ?_) (fun place found admitted => ?_)
      (alike_noteLast alike inside _ _ _)
    · have tried := List.mem_reverse.1 (List.mem_filter.1 found).1
      exact inside place (List.mem_of_mem_drop tried)
    · have tried := List.mem_reverse.1 (List.mem_filter.1 found).1
      refine List.mem_filter.2 ⟨List.mem_reverse.2 (Place.mem_drop_run accepts tried), ?_⟩
      cases lead with
      | char code => exact admitted
      | test accepts => rfl
      | undecided => rfl

/-- As few characters of a wider class as possible. -/
theorem below_chars_lazy (accepts : ∀ c, charTest.accepts c = true → wider.accepts c = true)
    (least : Nat) (most : Option Nat) (asked : Lead) :
    (Matcher.chars charTest least most .lazy asked).Below text lead
      (Matcher.chars wider least most .lazy lead) := by
  intro ends next after follows told s t alike
  obtain ⟨other, rfl⟩ := alike.exists_noted
  have inside := alike.text_of_mem_run charTest.accepts
  have longer := (Place.run_prefix accepts (some least) s.before s.after).length_le
  have covered : ∀ place ∈ (Place.run charTest.accepts most s.before s.after).drop least,
      place ∈ (Place.run wider.accepts most s.before s.after).drop least :=
    fun _ found => Place.mem_drop_run accepts found
  have meets := below_fromPlaces follows told
    (fun place found => inside most place (List.mem_of_mem_drop found))
    (fun place found _ => covered place found) alike
  unfold Matcher.chars
  simp only
  split
  · exact alike.noted
  split
  · exact (alike_noteLast alike (inside (some least)) _ charTest.listed s.toPlace).noted
  rw [if_neg (show ¬(Place.run wider.accepts (some least) s.before s.after).length ≤ least by omega)]
  split
  · next ended found =>
    obtain ⟨sound, state, matched⟩ := meets.matched found
    rw [matched]
    exact ⟨sound, state, rfl⟩
  · refine Place.text_getLastD (fun place found => ?_) alike.inside
    split at found
    · exact inside _ place found
    · exact inside most place (List.mem_of_mem_drop found)

/-- As many characters as possible for good. Whatever a wider class takes beyond them is lost, so it
has to be the same class. -/
theorem below_chars_possessive (same : wider.accepts = charTest.accepts) (least : Nat)
    (most : Option Nat) (asked : Lead) :
    (Matcher.chars charTest least most .possessive asked).Below text lead
      (Matcher.chars wider least most .possessive lead) := by
  intro ends next after follows told s t alike
  obtain ⟨other, rfl⟩ := alike.exists_noted
  have inside := alike.text_of_mem_run charTest.accepts most
  have noted := alike_noteLast alike inside charTest.listed wider.listed
    ((Place.run charTest.accepts most s.before s.after).getLastD s.toPlace)
  unfold Matcher.chars
  simp only [same]
  split
  · exact alike.noted
  split
  · next place found =>
    have here := inside place (List.mem_of_mem_drop (List.mem_of_getLast? found))
    exact follows _ _ ⟨rfl, noted.slots, here, noted.noted⟩
  · exact noted.noted

/-- Repetitions of one character of a wider class, which has to be the same one where they are
final. -/
theorem below_chars (accepts : ∀ c, charTest.accepts c = true → wider.accepts c = true)
    {appetite : Appetite} (final : appetite = .possessive → wider.accepts = charTest.accepts)
    (least : Nat) (most : Option Nat) (asked : Lead) :
    (Matcher.chars charTest least most appetite asked).Below text lead
      (Matcher.chars wider least most appetite lead) := by
  cases appetite with
  | greedy => exact below_chars_greedy accepts least most asked
  | lazy => exact below_chars_lazy accepts least most asked
  | possessive => exact below_chars_possessive (final rfl) least most asked

end Chars

/-! ## Repetitions of other expressions -/

/-- Alike states allow one more repetition alike. -/
theorem mayRepeat_eq (alike : Alike text s t) (most : Option Nat) (count : Nat)
    (latest : Option Nat) : mayRepeat most count latest t = mayRepeat most count latest s := by
  simp only [mayRepeat, alike.place]

/-- As many repetitions as possible. -/
theorem Below.greedy (below : body.Below text .undecided body') (fewest : Nat) (most : Option Nat)
    (fuel count : Nat) (latest : Option Nat) (follows : Precedes text ends next after) :
    Precedes text ends (Matcher.greedy body fewest most fuel count latest next)
      (Matcher.greedy body' fewest most fuel count latest after) := by
  induction fuel generalizing count latest with
  | zero => exact fun _ _ alike => alike.inside
  | succ fuel ih =>
    intro s t alike
    have more (count : Nat) (latest : Option Nat) := below ends _ _ (ih count latest)
      (Lead.sound_undecided _) _ _ alike.note
    -- The wider body may match where the other one fails and stops.
    have ending := (follows _ _ alike.note).failAt alike.inside t.toPlace
    unfold Matcher.greedy
    simp only [mayRepeat_eq alike, show t.position = s.position from congrArg _ alike.place]
    by_cases few : count < fewest
    · rw [if_pos few, if_pos few]
      exact (more ..).failAt alike.inside _
    · rw [if_neg few, if_neg few]
      cases mayRepeat most count latest s with
      | false => exact ending
      | true =>
        have meets := more (count + 1) (some s.position)
        simp only [if_true]
        split
        · next ended found =>
          obtain ⟨sound, state, matched⟩ := meets.matched found
          rw [matched]
          exact ⟨sound, state, rfl⟩
        · split
          · exact ending.ofMatched _
          · exact ending

/-- As few repetitions as possible. -/
theorem Below.lazy (below : body.Below text .undecided body') (fewest : Nat) (most : Option Nat)
    (fuel count : Nat) (latest : Option Nat) (follows : Precedes text ends next after) :
    Precedes text ends (Matcher.lazy body fewest most fuel count latest next)
      (Matcher.lazy body' fewest most fuel count latest after) := by
  induction fuel generalizing count latest with
  | zero => exact fun _ _ alike => alike.inside
  | succ fuel ih =>
    intro s t alike
    have more (count : Nat) (latest : Option Nat) := below ends _ _ (ih count latest)
      (Lead.sound_undecided _) _ _ alike.note
    have ending := follows _ _ alike.note
    unfold Matcher.lazy
    simp only [mayRepeat_eq alike, show t.position = s.position from congrArg _ alike.place]
    by_cases few : count < fewest
    · rw [if_pos few, if_pos few]
      exact (more ..).failAt alike.inside _
    · rw [if_neg few, if_neg few]
      -- Stopping is tried first; the wider matcher may stop where the other one has to go on.
      have going : (if mayRepeat most count latest s then
            (body (Matcher.lazy body fewest most fuel (count + 1) (some s.position) next)
              s.note).failAt s.toPlace
          else .failed s.toPlace).Below text ends
          (if mayRepeat most count latest s then
            (body' (Matcher.lazy body' fewest most fuel (count + 1) (some s.position) after)
              t.note).failAt t.toPlace
          else .failed t.toPlace) := by
        split
        · exact (more ..).failAt alike.inside _
        · exact alike.inside
      split
      · next ended found =>
        obtain ⟨sound, state, matched⟩ := ending.matched found
        rw [matched]
        exact ⟨sound, state, rfl⟩
      · cases after t.note with
        | matched ended => exact going.ofMatched ended
        | failed noted => exact going

/-- As many final repetitions as possible end in the same way from alike states. -/
theorem exhaust_eq (alike : Alike text s t) (body : Matcher) (fewest : Nat) (most : Option Nat)
    (fuel count : Nat) (latest : Option Nat) :
    Matcher.exhaust body fewest most fuel count latest t =
      Matcher.exhaust body fewest most fuel count latest s := by
  cases fuel with
  | zero => exact congrArg Attempt.failed alike.place
  | succ fuel =>
    unfold Matcher.exhaust
    simp only [mayRepeat_eq alike, alike.note_eq, alike.goTo_eq,
      show t.position = s.position from congrArg _ alike.place]

/-- As many final repetitions as possible end in the text. -/
theorem Below.exhaust_meets (below : body.Below text .undecided body) (fewest : Nat)
    (most : Option Nat) (fuel count : Nat) (latest : Option Nat) {state : State}
    (inside : state.toPlace.text = text) :
    (Matcher.exhaust body fewest most fuel count latest state).Meets (fun _ => True)
      (Inside text) := by
  induction fuel generalizing count latest state with
  | zero => trivial
  | succ fuel ih =>
    have meets := @below.first_meets _ _ state.note inside inside
    have further (count : Nat) (latest : Option Nat) (ended : State)
        (matched : body.first state.note = .matched ended) :
        (Matcher.exhaust body fewest most fuel count latest ended).Meets (fun _ => True)
          (Inside text) := by
      rw [matched] at meets
      exact ih count latest meets.1
    unfold Matcher.exhaust
    split
    · split
      · next ended matched => exact further _ _ ended matched
      · trivial
    · split
      · split
        · next ended matched => exact further _ _ ended matched
        · next noted failed =>
          rw [failed] at meets
          exact ⟨meets, meets⟩
      · exact ⟨inside, inside⟩

/-- Repetitions of a matcher, which has to be the same one where they are final. -/
theorem Below.loop (below : body.Below text .undecided body') {appetite : Appetite}
    (final : appetite = .possessive → body' = body) (least : Nat) (most : Option Nat)
    (groups : Option Nat) :
    (Matcher.loop least most appetite groups body).Below text lead
      (Matcher.loop least most appetite groups body') := by
  intro ends next after follows _ s t alike
  obtain ⟨other, rfl⟩ := alike.exists_noted
  unfold Matcher.loop
  simp only
  cases appetite with
  | greedy => exact below.greedy _ _ _ 0 none follows _ _ alike
  | lazy => exact below.lazy _ _ _ 0 none follows _ _ alike
  | possessive =>
    obtain rfl := final rfl
    simp only [exhaust_eq alike]
    split
    · next ended matched =>
      have meets := below.exhaust_meets (required least groups s.toPlace)
        (most.map (· - (least - required least groups s.toPlace)))
        (required least groups s.toPlace + s.position + s.after.length + 2) 0 none alike.inside
      rw [matched] at meets
      exact follows _ _ (.refl meets.1 meets.2)
    · exact alike.inside

end RoutePattern.Regex.Matcher
