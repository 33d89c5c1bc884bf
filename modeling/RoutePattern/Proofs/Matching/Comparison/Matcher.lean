import RoutePattern.Proofs.Letter
import RoutePattern.Proofs.Matching.Steady

/-!
# Comparing matchers

Two matchers are tried from alike states: states at one place of a text that have matched the same
with their groups, whatever places they have noted. A matcher is below another one if, wherever the
rest that follows the one matches, so does the rest that follows the other (`Matcher.Below`). On
the way nothing leaves the text. Every way of building matchers keeps this relation, as long as
nothing final is built from different ones.
-/
namespace RoutePattern.Regex

/-- The text that a place is in. -/
def Place.text (place : Place) : Text := place.before.reverse ++ place.after

/-- Two states are at one place of a text and have matched the same with their groups. The places
that they have noted may differ. -/
structure Alike (text : Text) (one two : State) : Prop where
  place : two.toPlace = one.toPlace
  slots : two.slots = one.slots
  inside : one.toPlace.text = text
  noted : one.noted.text = text

/-- The second attempt matches if the first one does, which then ends as asked for; one that fails
has noted a place of the text. -/
def Attempt.Below (text : Text) (ends : State → Prop) : Attempt → Attempt → Prop
  | .failed noted, _ => noted.text = text
  | .matched ended, other => ends ended ∧ ∃ state, other = .matched state

/-- Going on in the second way matches wherever going on in the first way does. -/
def Precedes (text : Text) (ends : State → Prop) (next other : Continuation) : Prop :=
  ∀ one two, Alike text one two → (next one).Below text ends (other two)

/-- Going on matches only where the text goes on as asked for. -/
def Lead.Sound (lead : Lead) (next : Continuation) : Prop :=
  ∀ state ended, next state = .matched ended → lead.admits state.after = true

/-- The second matcher leads to a match wherever the first one does. The second one is told what
comes after it asks of the text. -/
def Matcher.Below (text : Text) (lead : Lead) (matcher other : Matcher) : Prop :=
  ∀ ends next after, Precedes text ends next after → lead.Sound after →
    Precedes text ends (matcher next) (other after)

/-- Nothing is asked of the text. -/
theorem Lead.sound_undecided (next : Continuation) : Lead.undecided.Sound next := fun _ _ _ => rfl

/-! ## Places -/

namespace Place

/-- Going back stays in the text. -/
theorem text_of_back? {count : Nat} {place earlier : Place}
    (found : place.back? count = some earlier) : earlier.text = place.text := by
  induction count generalizing place with
  | zero =>
    obtain rfl := Option.some.inj found
    rfl
  | succ count ih =>
    obtain ⟨before, after⟩ := place
    cases before with
    | nil => exact absurd found (by simp [back?])
    | cons c before =>
      rw [ih found]
      simp [text]

/-- A run of characters stays in the text. -/
theorem text_of_mem_run {accepts : Char → Bool} {most : Option Nat} {before after : Text}
    {place : Place} (found : place ∈ run accepts most before after) :
    place.text = before.reverse ++ after := by
  induction after generalizing most before with
  | nil =>
    rw [run, List.mem_singleton] at found
    rw [found, text]
  | cons c after ih =>
    rw [run] at found
    rcases List.mem_cons.1 found with rfl | later
    · rfl
    · split at later
      · rw [ih later]
        simp
      · exact absurd later List.not_mem_nil

/-- Where more characters are accepted, a run goes on at least as far. -/
theorem run_prefix {accepts more : Char → Bool} (wider : ∀ c, accepts c = true → more c = true)
    (most : Option Nat) (before after : Text) :
    run accepts most before after <+: run more most before after := by
  induction after generalizing most before with
  | nil => exact List.prefix_rfl
  | cons c after ih =>
    rw [run, run, List.cons_prefix_cons]
    refine ⟨rfl, ?_⟩
    split
    · next both =>
      obtain ⟨room, accepted⟩ := Bool.and_eq_true_iff.1 both
      rw [if_pos (by rw [room, wider c accepted]; rfl)]
      exact ih ..
    · exact List.nil_prefix

/-- Where more characters are accepted, the places beyond the least count are still reached. -/
theorem mem_drop_run {accepts more : Char → Bool} (wider : ∀ c, accepts c = true → more c = true)
    {most : Option Nat} {before after : Text} {least : Nat} {place : Place}
    (found : place ∈ (run accepts most before after).drop least) :
    place ∈ (run more most before after).drop least := by
  obtain ⟨rest, whole⟩ := run_prefix wider most before after
  rw [← whole, List.drop_append]
  exact List.mem_append_left _ found

/-- The last of several places of a text. -/
theorem text_getLastD {text : Text} {places : List Place} {place : Place}
    (inside : ∀ place ∈ places, place.text = text) (here : place.text = text) :
    (places.getLastD place).text = text := by
  rcases List.eq_nil_or_concat places with rfl | ⟨earlier, last, rfl⟩
  · exact here
  · rw [List.concat_eq_append, List.getLastD_concat]
    exact inside last (by simp)

end Place

/-! ## Alike states -/

namespace Alike

variable {text : Text} {one two : State}

/-- A state is like itself. -/
theorem refl {state : State} (inside : state.toPlace.text = text)
    (noted : state.noted.text = text) : Alike text state state := ⟨rfl, rfl, inside, noted⟩

/-- Alike states differ at most in the place that is noted. -/
theorem exists_noted (alike : Alike text one two) :
    ∃ noted, two = { one with noted := noted } := by
  obtain ⟨place, noted, slots⟩ := two
  obtain rfl : place = one.toPlace := alike.place
  obtain rfl : slots = one.slots := alike.slots
  exact ⟨noted, rfl⟩

/-- The places of a run of characters are in the text. -/
theorem text_of_mem_run (alike : Alike text one two) (accepts : Char → Bool)
    (limit : Option Nat) : ∀ place ∈ Place.run accepts limit one.before one.after,
      place.text = text :=
  fun _ found => (Place.text_of_mem_run found).trans alike.inside

/-- Alike states have what follows them in common. -/
theorem after (alike : Alike text one two) : two.after = one.after := by rw [alike.place]

/-- Alike states are the same once they note their place. -/
theorem note_eq (alike : Alike text one two) : two.note = one.note := by
  obtain ⟨place, slots, -, -⟩ := alike
  simp only [State.note, place, slots]

/-- Alike states are the same once they are at a place that is noted. -/
theorem goTo_eq (alike : Alike text one two) (place : Place) : two.goTo place = one.goTo place := by
  simp only [State.goTo, alike.slots]

/-- The place is noted. -/
theorem note (alike : Alike text one two) : Alike text one.note two.note :=
  ⟨alike.place, alike.slots, alike.inside, alike.inside⟩

/-- Another place of the text. -/
theorem goTo (alike : Alike text one two) {place : Place} (inside : place.text = text) :
    Alike text (one.goTo place) (two.goTo place) := ⟨rfl, alike.slots, inside, inside⟩

/-- Other places are noted. -/
theorem notePlaces (alike : Alike text one two) {noted : Place} (inside : noted.text = text)
    (other : Place) : Alike text { one with noted := noted } { two with noted := other } :=
  ⟨alike.place, alike.slots, alike.inside, inside⟩

/-- One character further. -/
theorem step (alike : Alike text one two) {c : Char} {rest : Text} (here : one.after = c :: rest) :
    Alike text (one.step c rest) (two.step c rest) := by
  refine ⟨?_, alike.slots, ?_, alike.noted⟩
  · simp only [State.step, alike.place]
  · rw [← alike.inside]
    simp [State.step, Place.text, here]

/-- A group is opened. -/
theorem openGroup (alike : Alike text one two) (index : Nat) :
    Alike text (one.openGroup index) (two.openGroup index) := by
  refine ⟨alike.place, ?_, alike.inside, alike.noted⟩
  simp only [State.openGroup, alike.slots, alike.place]

/-- A group is closed. -/
theorem closeGroup (alike : Alike text one two) (index : Nat) :
    Alike text (one.closeGroup index) (two.closeGroup index) := by
  refine ⟨alike.place, ?_, alike.inside, alike.noted⟩
  simp only [State.closeGroup, alike.slots, alike.place]

/-- Alike states agree on the conditions on their place. -/
theorem holds_eq (alike : Alike text one two) (flags : Flags) (anchor : Anchor) :
    two.holds flags anchor = one.holds flags anchor := by
  obtain ⟨noted, rfl⟩ := alike.exists_noted
  cases anchor <;> rfl

/-- Alike states agree on what a group has matched. -/
theorem group?_eq (alike : Alike text one two) (index : Nat) :
    two.group? index = one.group? index := by
  simp only [State.group?, alike.slots]

end Alike

/-! ## Attempts -/

namespace Attempt.Below

variable {text : Text} {ends : State → Prop} {one two : Attempt}

/-- Where the first attempt matches, it ends as asked for, and the second one matches. -/
theorem matched (below : one.Below text ends two) {ended : State} (found : one = .matched ended) :
    ends ended ∧ ∃ state, two = .matched state := by
  rw [found] at below
  exact below

/-- Where the first attempt fails, it has noted a place of the text. -/
theorem failed (below : one.Below text ends two) {noted : Place} (found : one = .failed noted) :
    noted.text = text := by
  rw [found] at below
  exact below

/-- Nothing more is known of a match than that it is one. -/
theorem ofMatched (below : one.Below text ends two) (state : State) :
    one.Below text ends (.matched state) := by
  cases one with
  | failed noted => exact below
  | matched ended => exact ⟨below.1, state, rfl⟩

/-- A match ends as asked for. -/
theorem of_ended? (below : one.Below text ends two) {ended : State}
    (matched : one.ended? = some ended) : ends ended := by
  cases one with
  | failed noted => exact absurd matched (by simp [Attempt.ended?])
  | matched state =>
    obtain rfl := Option.some.inj matched
    exact below.1

/-- Another place is noted for a failure. -/
theorem failAt (below : one.Below text ends two) {place : Place} (inside : place.text = text)
    (other : Place) : (one.failAt place).Below text ends (two.failAt other) := by
  cases one with
  | failed noted => exact inside
  | matched ended =>
    obtain ⟨sound, state, rfl⟩ := below
    exact ⟨sound, state, rfl⟩

end Attempt.Below

namespace Matcher

variable {text : Text} {lead : Lead} {one one' two two' body body' : Matcher}

/-- What compares whatever follows compares where the text goes on as asked for. -/
theorem Below.told (below : body.Below text .undecided body') : body.Below text lead body' :=
  fun ends next after follows _ => below ends next after follows (Lead.sound_undecided after)

/-! ## Single steps -/

/-- Going on at once. -/
theorem below_id : Matcher.Below text lead (fun next => next) fun next => next :=
  fun _ _ _ follows _ => follows

/-- One character of a wider class. -/
theorem below_one {accepts more : Char → Bool} (wider : ∀ c, accepts c = true → more c = true) :
    (Matcher.one accepts).Below text lead (Matcher.one more) := by
  intro ends next after follows _ s t alike
  unfold Matcher.one
  rw [alike.after]
  split
  · exact alike.noted
  · next c rest here =>
    split
    · next accepted =>
      rw [if_pos (wider c accepted)]
      exact follows _ _ (alike.step here)
    · exact alike.noted

/-- A wider condition on the place. -/
theorem below_test {condition wider : State → Bool}
    (implied : ∀ s t, Alike text s t → condition s = true → wider t = true) :
    (Matcher.test condition).Below text lead (Matcher.test wider) := by
  intro ends next after follows _ s t alike
  unfold Matcher.test
  split
  · next holds =>
    rw [if_pos (implied s t alike holds)]
    exact follows s t alike
  · exact alike.noted

/-- One matcher after the other. What the first one is told comes from the second one. -/
theorem Below.seq {asked : Lead} (first : one.Below text asked one')
    (second : two.Below text lead two')
    (sound : ∀ after, lead.Sound after → asked.Sound (two' after)) :
    (one.seq two).Below text lead (one'.seq two') :=
  fun ends next after follows told =>
    first ends (two next) (two' after) (second ends next after follows told) (sound after told)

/-- A matcher that is tried if the text may go on as it asks. -/
theorem Below.offered (below : body.Below text lead body') (asked : Lead) {other : Lead}
    (sound : ∀ after, lead.Sound after → other.Sound (body' after)) :
    (Matcher.offered asked body).Below text lead (Matcher.offered other body') := by
  intro ends next after follows told s t alike
  have meets := below ends next after follows told _ _ alike.note
  unfold Matcher.offered
  split
  · cases attempt : body next s.note with
    | failed noted => exact meets.failed attempt
    | matched ended =>
      obtain ⟨final, state, matched⟩ := meets.matched attempt
      have admitted : other.admits t.after = true := sound after told t.note state matched
      rw [if_pos admitted]
      exact ⟨final, state, matched⟩
  · exact alike.noted

/-- A choice. -/
theorem Below.alt (first : one.Below text lead one') (second : two.Below text lead two') :
    (one.alt two).Below text lead (one'.alt two') := by
  intro ends next after follows told s t alike
  have meets := first ends next after follows told s t alike
  unfold Matcher.alt
  cases attempt : one next s with
  | matched ended =>
    obtain ⟨final, state, matched⟩ := meets.matched attempt
    rw [matched]
    exact ⟨final, state, rfl⟩
  | failed noted =>
    have inside := meets.failed attempt
    cases other : one' after t with
    | failed place => exact second ends next after follows told _ _ (alike.notePlaces inside place)
    | matched state =>
      have later := second ends next after follows told _ _ (alike.notePlaces inside t.noted)
      exact later.ofMatched state

/-- A matcher between the opening and the closing of a group. -/
theorem Below.group (below : body.Below text .undecided body') (index : Nat) :
    (Matcher.group index body).Below text lead (Matcher.group index body') := by
  intro ends next after follows _ s t alike
  have closes : Precedes text ends (fun ended => next (ended.closeGroup index))
      fun ended => after (ended.closeGroup index) :=
    fun s t alike => follows _ _ (alike.closeGroup index)
  exact below ends _ _ closes (Lead.sound_undecided _) _ _ (alike.openGroup index)

/-- One of two matchers. -/
theorem Below.ifGroup (yes : one.Below text lead one') (no : two.Below text lead two')
    (index : Nat) :
    (Matcher.ifGroup index one two).Below text lead (Matcher.ifGroup index one' two') := by
  intro ends next after follows told s t alike
  unfold Matcher.ifGroup
  rw [alike.group?_eq]
  split
  · exact yes ends next after follows told s t alike
  · exact no ends next after follows told s t alike

/-- The same characters again. -/
theorem below_literally (flags : Flags) (expected : Text) :
    (Matcher.literally flags expected).Below text .undecided
      (Matcher.literally flags expected) := by
  induction expected with
  | nil => exact below_id
  | cons c expected ih => exact (below_one fun _ => id).seq ih fun _ _ => Lead.sound_undecided _

/-- What a group has matched, again. -/
theorem below_again (flags : Flags) (index : Nat) :
    (Matcher.again flags index).Below text lead (Matcher.again flags index) := by
  intro ends next after follows told s t alike
  have same (start stop : Nat) : t.slice start stop = s.slice start stop := by
    simp only [State.slice, alike.place]
  unfold Matcher.again
  rw [alike.group?_eq]
  split
  · rw [same]
    exact (below_literally flags _).told ends next after follows told s t alike
  · exact alike.noted

/-! ## Final matches -/

/-- A state that neither is nor has noted a place outside of a text. -/
def Inside (text : Text) (state : State) : Prop :=
  state.toPlace.text = text ∧ state.noted.text = text

/-- The first match of a matcher stays in the text. -/
theorem Below.first_meets (below : body.Below text .undecided body) {state : State}
    (inside : state.toPlace.text = text) (noted : state.noted.text = text) :
    (body.first state).Meets (·.text = text) (Inside text) := by
  have final : Precedes text (Inside text) (fun ended => .matched ended.note)
      fun ended => .matched ended.note :=
    fun s t alike => ⟨⟨alike.inside, alike.inside⟩, t.note, rfl⟩
  have meets : (body.first state).Below text (Inside text) (body.first state) :=
    below (Inside text) _ _ final (Lead.sound_undecided _) _ _ (.refl inside noted)
  cases attempt : body.first state with
  | failed place => exact meets.failed attempt
  | matched ended => exact (meets.matched attempt).1

/-- A matcher whose first match is final. -/
theorem Below.atomic (below : body.Below text .undecided body) :
    (Matcher.atomic body).Below text lead (Matcher.atomic body) := by
  intro ends next after follows _ s t alike
  have meets := below.first_meets alike.note.inside alike.note.noted
  unfold Matcher.atomic
  rw [alike.note_eq]
  cases attempt : body.first s.note with
  | failed place => exact alike.inside
  | matched ended =>
    rw [attempt] at meets
    exact follows _ _ (.refl meets.1 meets.2)

/-- A look from another place of the text. -/
theorem Below.look (below : body.Below text .undecided body) (negated : Bool)
    {start : Option Place} (inside : ∀ place ∈ start, place.text = text)
    {ends : State → Prop} {next after : Continuation} (follows : Precedes text ends next after)
    {s t : State} (alike : Alike text s t) :
    (Matcher.look negated body start next s).Below text ends
      (Matcher.look negated body start after t) := by
  unfold Matcher.look
  cases start with
  | none =>
    cases negated with
    | true => exact follows s t alike
    | false => exact alike.noted
  | some place =>
    have here := inside place rfl
    have meets := below.first_meets (alike.goTo here).inside here
    simp only [alike.goTo_eq]
    cases attempt : body.first (s.goTo place) with
    | failed noted =>
      rw [attempt] at meets
      cases negated with
      | true => exact follows _ _ (alike.notePlaces meets noted)
      | false => exact meets
    | matched ended =>
      rw [attempt] at meets
      cases negated with
      | true => exact meets.2
      | false => exact follows _ _ ⟨alike.place, rfl, alike.inside, meets.2⟩

end Matcher

/-!
## What an expression asks of the text first

Some expressions show by the next character alone that they do not match. What such an expression
asks of the text is asked for by every match of it, and an expression that asks for nothing leaves
it to what comes after it (`Expr.sound_lead`).
-/

/-- A character of a class matches only in front of such a character. -/
theorem Matcher.sound_one {accepts : Char → Bool} {lead : Lead}
    (asks : ∀ c rest, accepts c = true → lead.admits (c :: rest) = true) (next : Continuation) :
    lead.Sound (Matcher.one accepts next) := by
  intro state ended matched
  unfold Matcher.one at matched
  split at matched
  · exact absurd matched (by simp)
  · next c rest here =>
    split at matched
    · next accepted =>
      rw [here]
      exact asks c rest accepted
    · exact absurd matched (by simp)

/-- An expression before another one asks for what the other one does if it asks for nothing
itself. -/
theorem Expr.getD_lead?_seq (first second : Expr) (flags : Flags) (lead : Lead) :
    ((seq first second).lead? flags).getD lead =
      (first.lead? flags).getD ((second.lead? flags).getD lead) := by
  rw [lead?]
  cases first.lead? flags <;> rfl

/-- An expression matches only where the text goes on as it asks, and one that asks for nothing
matches only where the text goes on as what comes after it asks. -/
theorem Expr.sound_lead (expr : Expr) (flags : Flags) (told : Lead) {next : Continuation}
    {lead : Lead} (sound : lead.Sound next) :
    ((expr.lead? flags).getD lead).Sound (expr.matcher flags told next) := by
  induction expr generalizing flags told next lead with
  | empty => exact sound
  | char code =>
    by_cases matters : caseMatters flags code = true
    · simp only [Expr.lead?, matters, if_true, Option.getD_some]
      exact Lead.sound_undecided _
    · rw [Bool.not_eq_true] at matters
      simp only [Expr.lead?, matters, Bool.false_eq_true, if_false, Option.getD_some]
      refine Matcher.sound_one (fun c rest accepted => ?_) next
      rw [sameCode_of_caseless (.inl matters)] at accepted
      rw [Lead.admits, Bool.beq_comm]
      exact accepted
  | set negated items =>
    by_cases matters : items.any (·.caseMatters flags) = true
    · simp only [Expr.lead?, matters, if_true, Option.getD_some]
      exact Lead.sound_undecided _
    · simp only [Expr.lead?, matters, Option.getD_some]
      exact Matcher.sound_one (fun _ _ accepted => accepted) next
  -- The lead of a row is that of its first part, or of the next one if the first asks for nothing.
  | seq first second one two =>
    have later : ((second.lead? flags).getD lead).Sound (second.matcher flags told next) :=
      two flags told sound
    rw [getD_lead?_seq]
    exact one flags _ later
  | flagged change body ih => exact ih _ told sound
  | notChar _ | any | anchor _ | again _ => exact Lead.sound_undecided _
  | alt _ _ _ _ | group _ _ _ | atomic _ _ | ahead _ _ _ | behind _ _ _ _ | loop _ _ _ _ _
  | ifGroup _ _ _ _ _ => exact Lead.sound_undecided _

end RoutePattern.Regex
