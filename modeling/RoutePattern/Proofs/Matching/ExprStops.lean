import RoutePattern.Proofs.Matching.Comparison.Alternation
import RoutePattern.Proofs.Matching.Comparison.Expression
import RoutePattern.Proofs.Matching.Powers

/-!
# Where expressions stop

An expression that refers to no group, and holds none in a possessive repetition, is known by the
places where it stops, the preferred one first (`Expr.stops`, `Expr.finds`): what a group has
matched is not among them. As long as it never goes back (`Expr.onward`), its repetitions may be
shortened.
-/
namespace RoutePattern.Regex.Matcher

/-!
## The places after repeated characters

A repetition of one character counts the characters first and then tries the rest from the places
after them, the furthest or the nearest first. These are the stops that a repetition of any matcher
has (`Matcher.repeatStops_one`), so that how a repetition is tried shows in nothing
(`Matcher.finds_chars`). A possessive repetition is final: it stops at one place or at none
(`Matcher.finds_final`).
-/

variable {lead : Lead} {accepts : Char → Bool}

/-- Trying several places leads to what the first of them leads to that leads anywhere. -/
theorem place?_fromPlaces {next : Continuation} {goal : Place → Option Place}
    (leads : Leads next goal) (places : List Place) (state : State) :
    (fromPlaces places next state).place? = places.findSome? goal := by
  induction places generalizing state with
  | nil => rfl
  | cons place places ih =>
    have here : (next (state.goTo place)).place? = goal place := leads (state.goTo place)
    rw [fromPlaces_cons, List.findSome?_cons, ← here]
    cases next (state.goTo place) with
    | matched ended => rfl
    | failed noted => exact ih { state with noted := noted }

/-- The stops of a repetition of one character are the places of a run. -/
theorem repeatStops_one (accepts : Char → Bool) (lazy : Bool) {least : Nat} {most : Option Nat}
    (ordered : most.all (least ≤ ·) = true) (fuel count : Nat) (latest : Option Nat)
    (before after : Text) (earlier : ∀ start ∈ latest, start < before.length)
    (fuelled : after.length < fuel) :
    let places := (Place.run accepts (most.map (· - count)) before after).drop (least - count)
    repeatStops lazy (oneStop accepts) least most fuel count latest ⟨before, after⟩ =
      if lazy then places else places.reverse := by
  -- On the text that is left: each repetition takes one character, so the fuel outlasts it and no
  -- repetition is an empty one.
  induction after generalizing fuel count latest before with
  | nil =>
    obtain ⟨fuel, rfl⟩ : ∃ fewer, fuel = fewer + 1 := ⟨fuel - 1, by omega⟩
    by_cases few : count < least
    · obtain ⟨missing, several⟩ : ∃ missing, least - count = missing + 1 :=
        ⟨least - count - 1, by omega⟩
      simp [repeatStops, oneStop, Place.run, few, several]
    · have enough : least - count = 0 := by omega
      cases lazy <;> simp [repeatStops, oneStop, Place.run, few, enough]
  | cons c rest ih =>
    obtain ⟨fuel, rfl⟩ : ∃ fewer, fuel = fewer + 1 := ⟨fuel - 1, by simp at fuelled; omega⟩
    have fuelled : rest.length < fuel := by simpa using fuelled
    have lowered : (most.map (· - count)).map (· - 1) = most.map (· - (count + 1)) := by
      simp [Function.comp_def, Nat.sub_sub]
    by_cases few : count < least
    · have allowed : (most.map (· - count)).all (0 < ·) = true := by
        cases most with
        | none => rfl
        | some most =>
          have : least ≤ most := by simpa using ordered
          simp only [Option.map_some, Option.all_some, decide_eq_true_eq]
          omega
      obtain ⟨missing, several⟩ : ∃ missing, least - count = missing + 1 :=
        ⟨least - count - 1, by omega⟩
      have fewer : least - (count + 1) = missing := by omega
      have later := ih fuel (count + 1) latest (c :: before)
        (fun start found => Nat.lt_succ_of_lt (earlier start found)) fuelled
      cases accepted : accepts c with
      | false => simp [repeatStops, oneStop, Place.run, few, several, accepted]
      | true =>
        rw [fewer] at later
        simp [repeatStops, oneStop, Place.run, few, several, accepted, later, allowed,
          Nat.sub_sub, Function.comp_def]
    · have enough : least - count = 0 := by omega
      have moved : latest ≠ some before.length := fun same =>
        absurd (earlier _ same) (Nat.lt_irrefl _)
      have later := ih fuel (count + 1) (some before.length) (c :: before)
        (fun start found => by obtain rfl := Option.some.inj found; exact Nat.lt_succ_self _)
        fuelled
      have fewer : least - (count + 1) = 0 := by omega
      cases accepted : accepts c with
      | false => cases lazy <;> simp [repeatStops, oneStop, Place.run, few, enough, accepted]
      | true =>
        rw [fewer] at later
        cases allowed : most.all (count < ·) with
        | false =>
          rw [all_lt_eq] at allowed
          cases lazy <;>
            simp [repeatStops, Place.run, few, enough, all_lt_eq most, allowed]
        | true =>
          rw [all_lt_eq] at allowed
          cases lazy <;>
            simp [repeatStops, oneStop, Place.run, few, enough, accepted, all_lt_eq most, allowed,
              Place.position, moved, later, Nat.sub_sub, Function.comp_def]

/-- The stops of a repetition of one character at a place. -/
theorem loopStops_one (lazy : Bool) {least : Nat} {most : Option Nat}
    (ordered : most.all (least ≤ ·) = true) (place : Place) :
    let places := (Place.run accepts most place.before place.after).drop least
    loopStops lazy (oneStop accepts) least most place =
      if lazy then places else places.reverse := by
  have stops := repeatStops_one accepts lazy ordered
    (least + place.position + place.after.length + 2) 0 none place.before place.after
    (fun start found => absurd found (Option.not_mem_none _)) (by omega)
  rw [loopStops]
  simpa using stops

/-- Places that what comes after them does not admit lead nowhere. -/
theorem findSome?_filter_of_sound {next : Continuation} {goal : Place → Option Place}
    (leads : Leads next goal) (told : lead.Sound next) (places : List Place) :
    (places.filter fun place => lead.admits place.after).findSome? goal =
      places.findSome? goal := by
  induction places with
  | nil => rfl
  | cons place places ih =>
    cases admitted : lead.admits place.after with
    | true => simp [admitted, List.findSome?_cons, ih]
    | false =>
      have nowhere : goal place = none := by
        rw [← leads ⟨place, place, []⟩]
        cases attempt : next ⟨place, place, []⟩ with
        | failed noted => rfl
        | matched ended => exact absurd (told _ _ attempt) (by simp [admitted])
      simp [admitted, ih, nowhere]

/-- Repetitions of one character that may be given up again stop where those of any matcher do. -/
theorem finds_chars (charTest : CharTest) {least : Nat} {most : Option Nat}
    (ordered : most.all (least ≤ ·) = true) {appetite : Appetite} (loose : appetite ≠ .possessive) :
    (Matcher.chars charTest least most appetite lead).Finds lead
      (loopStops (appetite == .lazy) (oneStop charTest.accepts) least most) := by
  intro next goal leads told state
  rw [loopStops_one _ ordered]
  unfold Matcher.chars
  simp only
  split
  · next full =>
    rw [Place.run_drop_of_full (by simpa using full)]
    simp
  · cases appetite with
    | possessive => exact absurd rfl loose
    -- What comes next may ask for a lead; the places that it rules out are no matches anyway.
    | greedy =>
      simp only
      rw [place?_fromPlaces leads]
      cases lead with
      | char code => exact findSome?_filter_of_sound leads told _
      | test accepts => simp
      | undecided => simp
    | lazy =>
      simp only
      split
      · next missing =>
        rw [Place.run_drop_of_missing missing]
        simp
      · have tried := place?_fromPlaces leads
          ((Place.run charTest.accepts most state.before state.after).drop least) state
        rw [show (Appetite.lazy == .lazy) = true from rfl, if_pos rfl, ← tried]
        cases fromPlaces _ next state <;> rfl

/-- A matcher that goes on from one state, or fails, is final. -/
theorem finds_final {matcher : Matcher} (straight : matcher.Straight)
    (same : ∀ state : State, (matcher.first state).place? =
      (matcher.first ⟨state.toPlace, state.toPlace, []⟩).place?) :
    matcher.Finds lead matcher.final := by
  intro next goal leads _ state
  rw [final, ← same]
  rcases straight state with ⟨last, goesOn⟩ | ⟨place, fails⟩
  · rw [goesOn, Matcher.first, goesOn]
    exact (leads last).trans (List.findSome?_singleton ..).symm
  · rw [fails, Matcher.first, fails]
    rfl

end RoutePattern.Regex.Matcher

namespace RoutePattern.Regex

namespace Expr

/-- The bounds of every repetition are in order. -/
def isOrdered : Expr → Bool
  | seq first second | alt first second | ifGroup _ first second =>
    first.isOrdered && second.isOrdered
  | group _ body | flagged _ body | atomic body | ahead _ body | behind _ _ body => body.isOrdered
  | loop least most _ body => body.isOrdered && most.all (least ≤ ·)
  | empty | char _ | notChar _ | any | set .. | anchor _ | again _ => true

/-- No group stands inside a possessive repetition. -/
def isLoose : Expr → Bool
  | seq first second | alt first second | ifGroup _ first second => first.isLoose && second.isLoose
  | group _ body | flagged _ body | atomic body | ahead _ body | behind _ _ body => body.isLoose
  | loop _ _ appetite body => body.isLoose && (appetite != .possessive || body.groupCount == 0)
  | empty | char _ | notChar _ | any | set .. | anchor _ | again _ => true

/-- The expression refers to no group and holds none in a possessive repetition, and its bounds are
in order. -/
def isTame (expr : Expr) : Bool := !expr.refersBack && expr.isOrdered && expr.isLoose

/-- What is tame of both parts is tame of an expression of two. -/
theorem isTame_both {expr first second : Expr}
    (refers : expr.refersBack = (first.refersBack || second.refersBack))
    (ordered : expr.isOrdered = (first.isOrdered && second.isOrdered))
    (loose : expr.isLoose = (first.isLoose && second.isLoose)) :
    expr.isTame = (first.isTame && second.isTame) := by
  rw [isTame, isTame, isTame, refers, ordered, loose]
  cases first.refersBack <;> cases second.refersBack <;> simp
  ac_rfl

/-- A row of two is tame if both are. -/
@[simp] theorem isTame_seq (first second : Expr) :
    (seq first second).isTame = (first.isTame && second.isTame) := isTame_both rfl rfl rfl

/-- A choice is tame if both are. -/
@[simp] theorem isTame_alt (first second : Expr) :
    (alt first second).isTame = (first.isTame && second.isTame) := isTame_both rfl rfl rfl

/-- A repetition is tame if its body is, its bounds are in order, and it holds no group unless it
can be given up again. -/
theorem isTame_loop {least : Nat} {most : Option Nat} {appetite : Appetite} {body : Expr} :
    (loop least most appetite body).isTame = true ↔ body.isTame = true ∧
      most.all (least ≤ ·) = true ∧ (appetite = .possessive → body.groupCount = 0) := by
  simp only [isTame, refersBack, isOrdered, isLoose, Bool.and_eq_true, Bool.or_eq_true, bne_iff_ne,
    beq_iff_eq, ne_eq, imp_iff_not_or]
  tauto

/-! ## Stops -/

/-- The places where an expression stops, the preferred one first. -/
def stops : Expr → Flags → Place → List Place
  | empty, _, place => [place]
  | char code, flags, place => Matcher.oneStop (fun c => sameCode flags code c.toNat) place
  | notChar code, flags, place => Matcher.oneStop (fun c => !sameCode flags code c.toNat) place
  | any, flags, place => Matcher.oneStop (fun c => flags.dotAll || c != '\n') place
  | set negated items, flags, place =>
    Matcher.oneStop (fun c => setHolds flags negated items c.toNat) place
  | anchor edge, flags, place =>
    Matcher.testStop (fun place => State.holds ⟨place, place, []⟩ flags edge) place
  | seq first second, flags, place => (first.stops flags place).flatMap (second.stops flags)
  | alt first second, flags, place => first.stops flags place ++ second.stops flags place
  | group _ body, flags, place => body.stops flags place
  | flagged change body, flags, place => body.stops (flags.apply change) place
  | atomic body, flags, place => (body.stops flags place).head?.toList
  | ahead negated body, flags, place =>
    Matcher.lookStop negated (body.stops flags) (some place) place
  | behind negated width body, flags, place =>
    Matcher.lookStop negated (body.stops flags) (place.back? width.least) place
  | loop least most .possessive body, flags, place =>
    ((loop least most .possessive body).matcher flags .undecided).final place
  | loop least most appetite body, flags, place =>
    Matcher.loopStops (appetite == .lazy) (body.stops flags) least most place
  | again _, _, _ | ifGroup .., _, _ => []

/-- A repetition that may be given up again stops as its body does several times. -/
theorem stops_loop {appetite : Appetite} (yields : appetite ≠ .possessive) (least : Nat)
    (most : Option Nat) (body : Expr) (flags : Flags) :
    (loop least most appetite body).stops flags =
      Matcher.loopStops (appetite == .lazy) (body.stops flags) least most := by
  cases appetite with
  | possessive => exact absurd rfl yields
  | greedy => rfl
  | lazy => rfl

/-- An expression of one character stops after such a character. -/
theorem stops_of_single? {expr : Expr} {flags : Flags} {charTest : CharTest}
    (single : expr.single? flags = some charTest) :
    expr.stops flags = Matcher.oneStop charTest.accepts := by
  fun_induction single? flags expr with
  | case1 | case2 | case3 | case4 =>
    obtain rfl := Option.some.inj single
    rfl
  | case5 flags first ih =>
    funext place
    simp [stops, ih single]
  | case6 flags change body ih => exact ih single
  | case7 => exact absurd single (by simp)

end Expr

/-! ## Final repetitions -/

/-- A place that is not further back in the same text is the same place, or leaves fewer
characters. -/
theorem Place.onward_of_text {one two : Place} (same : two.text = one.text)
    (later : one.position ≤ two.position) :
    two = one ∨ two.after.length < one.after.length := by
  unfold Place.text at same
  have count := congrArg List.length same
  simp only [List.length_append, List.length_reverse] at count
  rcases Nat.eq_or_lt_of_le later with level | further
  · obtain ⟨before, after⟩ := List.append_inj same (by simpa [Place.position] using level.symm)
    left
    cases one
    cases two
    simp_all
  · right
    simp only [Place.position] at further
    omega

namespace Matcher

/-- A possessive repetition of one character goes on from one state, or fails. -/
theorem straight_chars (charTest : CharTest) (least : Nat) (most : Option Nat) (lead : Lead) :
    (Matcher.chars charTest least most .possessive lead).Straight := by
  intro state
  simp only [Matcher.chars]
  split
  · exact .inr ⟨_, fun _ => rfl⟩
  · split
    · exact .inl ⟨_, fun _ => rfl⟩
    · exact .inr ⟨_, fun _ => rfl⟩

/-- A possessive repetition goes on from one state, or fails. -/
theorem straight_loop (body : Matcher) (least : Nat) (most groups : Option Nat) :
    (Matcher.loop least most .possessive groups body).Straight := by
  intro state
  simp only [Matcher.loop]
  split
  · exact .inl ⟨_, fun _ => rfl⟩
  · exact .inr ⟨_, fun _ => rfl⟩

/-- A possessive repetition of one character stops at the same place wherever it is. -/
theorem place?_first_chars (charTest : CharTest) (least : Nat) (most : Option Nat) (lead : Lead)
    (state : State) :
    let matcher := Matcher.chars charTest least most .possessive lead
    (matcher.first state).place? =
      (matcher.first ⟨state.toPlace, state.toPlace, []⟩).place? := by
  simp only [Matcher.first, Matcher.chars]
  split
  · rfl
  · split <;> rfl

/-- Final repetitions note the place where they start. -/
theorem exhaust_note (body : Matcher) (least : Nat) (most : Option Nat) (fuel count : Nat)
    (latest : Option Nat) (state : State) :
    exhaust body least most fuel count latest state.note =
      exhaust body least most fuel count latest state := by
  cases fuel <;> rfl

/-- A possessive repetition of a blind matcher stops at the same place whatever is noted, and
whatever the groups have matched. -/
theorem Blind.place?_first_loop {body : Matcher} (blind : body.Blind) (least : Nat)
    (most groups : Option Nat) (state : State) :
    let matcher := Matcher.loop least most .possessive groups body
    (matcher.first state).place? =
      (matcher.first ⟨state.toPlace, state.toPlace, []⟩).place? := by
  intro matcher
  have same : matcher.first state = matcher.first state.note := by
    simp only [matcher, Matcher.first, Matcher.loop]
    rw [exhaust_note]
    rfl
  rw [same]
  exact ((blind.loop least most .possessive groups).first state.note []).place?_eq.symm

/-- A matcher that keeps the place never stops further back, and always in the text. -/
theorem onward_final {matcher : Matcher} (keeps : matcher.Keeps .places)
    (below : ∀ text, matcher.Below text .undecided matcher) : Onward matcher.final := by
  intro place stop found
  obtain ⟨ended, matched, rfl⟩ :
      ∃ ended, matcher.first ⟨place, place, []⟩ = .matched ended ∧ ended.toPlace = stop := by
    rw [final, Option.mem_toList] at found
    cases attempt : matcher.first ⟨place, place, []⟩ with
    | failed noted => exact absurd found (by simp [attempt])
    | matched ended => exact ⟨ended, rfl, by simpa [attempt] using found⟩
  have kept : Kept [] place.position .places ⟨place, place, []⟩ :=
    ⟨rfl, fun _ => Nat.le_refl _, fun _ => Nat.le_refl _⟩
  have meets : (matcher.first ⟨place, place, []⟩).Meets (fun _ => True) fun state =>
      place.position ≤ state.position :=
    keeps.meets (by decide) kept fun state kept => kept.place (by decide)
  have later := meets.matched matched
  have inside : ended.toPlace.text = place.text := by
    have follows : Precedes place.text (fun state => state.toPlace.text = place.text)
        (fun ended => .matched ended.note) fun ended => .matched ended.note :=
      fun one two alike => ⟨alike.inside, _, rfl⟩
    have ends := below place.text _ _ _ follows (Lead.sound_undecided _)
      ⟨place, place, []⟩ ⟨place, place, []⟩ (.refl rfl rfl)
    rw [show matcher _ _ = _ from matched] at ends
    exact ends.1
  exact Place.onward_of_text inside later

end Matcher

/-! ## Expressions -/

/-- Stops of stops are onward if both are. -/
theorem Onward.flatMap {one two : Place → List Place} (first : Onward one) (second : Onward two) :
    Onward fun place => (one place).flatMap two := by
  intro place stop found
  obtain ⟨middle, here, there⟩ := List.mem_flatMap.1 found
  rcases second middle stop there with rfl | less
  · exact first place _ here
  · exact .inr (Nat.lt_of_lt_of_le less (first.length_le here))

/-- The first stop alone is onward. -/
theorem Onward.head? {stops : Place → List Place} (onward : Onward stops) :
    Onward fun place => (stops place).head?.toList := by
  intro place stop found
  exact onward place stop (List.mem_of_mem_head? (by simpa using found))

/-- Repetitions of what is onward are. -/
theorem Onward.repeatStops {stops : Place → List Place} (onward : Onward stops) (lazy : Bool)
    (least : Nat) (most : Option Nat) (fuel count : Nat) (latest : Option Nat) :
    Onward (Matcher.repeatStops lazy stops least most fuel count latest) := by
  induction fuel generalizing count latest with
  | zero => exact fun place stop found => absurd found List.not_mem_nil
  | succ fuel ih =>
    intro place stop found
    rw [Matcher.repeatStops] at found
    split at found
    · exact onward.flatMap (ih _ _) place stop found
    · have further : stop = place ∨ stop ∈ (stops place).flatMap
          (Matcher.repeatStops lazy stops least most fuel (count + 1) (some place.position)) := by
        cases lazy <;> simp at found ⊢ <;> tauto
      exact further.elim .inl (onward.flatMap (ih _ _) place stop)

namespace Expr

/-- An expression that never goes back stops where it starts or further on. -/
theorem onward {expr : Expr} (tame : expr.isTame = true) (steady : expr.isSteady false = true)
    (flags : Flags) : Onward (expr.stops flags) := by
  have one (accepts : Char → Bool) : Onward (Matcher.oneStop accepts) := by
    rintro ⟨before, _ | ⟨c, rest⟩⟩ stop found
    · exact absurd found List.not_mem_nil
    · simp only [Matcher.oneStop] at found
      split at found
      · obtain rfl := List.mem_singleton.1 found
        exact .inr (Nat.lt_succ_self _)
      · exact absurd found List.not_mem_nil
  have stay {condition : Place → Prop} [DecidablePred condition] :
      Onward fun place => if condition place then [place] else [] := by
    intro place stop found
    dsimp only at found
    split at found
    · exact .inl (List.mem_singleton.1 found)
    · exact absurd found List.not_mem_nil
  induction expr generalizing flags with
  | empty => exact fun place stop found => .inl (List.mem_singleton.1 found)
  | char _ | notChar _ | any | set _ _ => exact one _
  | anchor edge => exact stay
  | seq first second ihOne ihTwo =>
    rw [isTame_seq, Bool.and_eq_true] at tame
    obtain ⟨steadyOne, steadyTwo⟩ := Bool.and_eq_true_iff.1 steady
    exact (ihOne tame.1 steadyOne flags).flatMap (ihTwo tame.2 steadyTwo flags)
  | alt first second ihOne ihTwo =>
    rw [isTame_alt, Bool.and_eq_true] at tame
    obtain ⟨steadyOne, steadyTwo⟩ := Bool.and_eq_true_iff.1 steady
    intro place stop found
    exact (List.mem_append.1 found).elim (ihOne tame.1 steadyOne flags place stop)
      (ihTwo tame.2 steadyTwo flags place stop)
  | group index body ih => exact ih tame steady flags
  | flagged change body ih => exact ih tame steady _
  | atomic body ih => exact (ih tame steady flags).head?
  | ahead negated body ih => exact stay
  | behind negated width body ih => exact stay
  | loop least most appetite body ih =>
    obtain ⟨inside, ordered, final⟩ := isTame_loop.1 tame
    obtain ⟨steadyBody, -⟩ := Bool.and_eq_true_iff.1 steady
    -- The stops of a possessive loop are not made from those of its body; there is at most one.
    by_cases possessive : appetite = .possessive
    · subst possessive
      have free : (loop least most .possessive body).groupCount = 0 := final rfl
      have allows : (loop least most .possessive body).Allows .places := fun _ => steady
      exact Matcher.onward_final (keeps_matcher free allows flags .undecided)
        fun text => below_matcher (widens_refl _ flags) text .undecided .undecided
    · rw [stops_loop possessive]
      exact fun place => (ih inside steadyBody flags).repeatStops _ _ _ _ _ _ place
  | again index => exact absurd tame (by simp [isTame, refersBack])
  | ifGroup index yes no => exact absurd tame (by simp [isTame, refersBack])

/-- An expression leads on from the first of its stops that leads anywhere. -/
theorem finds {expr : Expr} (tame : expr.isTame = true) (flags : Flags) (lead : Lead) :
    (expr.matcher flags lead).Finds lead (expr.stops flags) := by
  induction expr generalizing flags lead with
  | empty => exact Matcher.finds_id
  | char _ | notChar _ | any | set _ _ => exact Matcher.finds_one _
  | anchor edge => exact Matcher.finds_test fun state => by cases edge <;> rfl
  | seq first second one two =>
    rw [isTame_seq, Bool.and_eq_true] at tame
    exact (one tame.1 flags _).seq (two tame.2 flags lead)
      fun _ told => second.sound_lead flags lead told
  | alt first second one two =>
    rw [isTame_alt, Bool.and_eq_true] at tame
    have offers (expr : Expr)
        (finds : (expr.matcher flags .undecided).Finds .undecided (expr.stops flags)) :
        (Matcher.offered ((expr.lead? flags).getD .undecided)
          (expr.matcher flags .undecided)).Finds lead (expr.stops flags) :=
      (finds.offered fun _ told => expr.sound_lead flags .undecided told).told
    refine (offers first (one tame.1 flags _)).alt ?_
    split
    · exact (two tame.2 flags _).told
    · exact offers second (two tame.2 flags _)
  | group index body ih => exact (ih tame flags _).group index
  | flagged change body ih => exact ih tame _ lead
  | atomic body ih => exact (ih tame flags _).atomic
  | ahead negated body ih => exact (ih tame flags _).look negated some
  | behind negated width body ih => exact (ih tame flags _).look negated (·.back? width.least)
  | loop least most appetite body ih =>
    obtain ⟨inside, ordered, final⟩ := isTame_loop.1 tame
    -- A possessive loop is not entered again: its one stop is the one that it has alone.
    by_cases possessive : appetite = .possessive
    · subst possessive
      have free : body.refersBack = false := by
        simpa [isTame, refersBack, and_assoc] using (Bool.and_eq_true_iff.1
          (Bool.and_eq_true_iff.1 inside).1).1
      change Matcher.Finds _ lead ((loop least most .possessive body).matcher flags .undecided).final
      unfold matcher
      split
      · exact Matcher.finds_final (Matcher.straight_chars _ _ _ _)
          (Matcher.place?_first_chars _ _ _ _)
      · exact Matcher.finds_final (Matcher.straight_loop _ _ _ _)
          ((blind free flags .undecided).place?_first_loop _ _ _)
    · rw [stops_loop possessive, matcher]
      split
      · next charTest single =>
        rw [stops_of_single? single]
        exact Matcher.finds_chars charTest ordered possessive
      · refine (ih inside flags .undecided).loop least most possessive fun own => ?_
        refine body.onward inside ?_ flags
        unfold ownGroups? at own
        split at own
        · exact absurd rfl own
        · simp_all
  | again index => exact absurd tame (by simp [isTame, refersBack])
  | ifGroup index yes no => exact absurd tame (by simp [isTame, refersBack])

end Expr

end RoutePattern.Regex
