import RoutePattern.Proofs.Matching.Comparison.Matcher

/-!
# Matchers in step

Two matchers are in step if, tried from alike states, they both fail or both match and end in alike
states (`Matcher.InStep`). What comes after them only has to be in step itself: what it asks of the
text may show for the one and not for the other. Where a place that a failure has noted decides how
matching goes on, the matchers have to be exactly in step: they note the same places, too.
-/
namespace RoutePattern.Regex

/-- Two states are alike, and have noted the same place where they have to be so exactly. -/
structure Abreast (exact : Bool) (text : Text) (one two : State) : Prop
    extends Alike text one two where
  same : exact = true → two.noted = one.noted

/-- Two attempts both fail, or both match and end abreast. -/
inductive Attempt.InStep (exact : Bool) (text : Text) : Attempt → Attempt → Prop where
  | failed {noted other : Place} (inside : noted.text = text)
    (same : exact = true → other = noted) : InStep exact text (.failed noted) (.failed other)
  | matched {one two : State} (abreast : Abreast exact text one two) :
    InStep exact text (.matched one) (.matched two)

/-- Two ways of going on are in step. -/
def Together (exact : Bool) (text : Text) (next after : Continuation) : Prop :=
  ∀ one two, Abreast exact text one two → (next one).InStep exact text (after two)

/-- The same is asked of a text. -/
inductive Lead.Likewise (text : Text) : Lead → Lead → Prop where
  | char (code : Nat) : Likewise text (.char code) (.char code)
  | test {accepts other : Char → Bool} (agree : ∀ c ∈ text, other c = accepts c) :
    Likewise text (.test accepts) (.test other)
  | undecided : Likewise text .undecided .undecided

/-- What comes after two matchers: it is in step, and the matchers are told what it asks of the
text, which is the same where they have to be exactly in step. -/
structure Told (exact : Bool) (text : Text) (lead other : Lead) (next after : Continuation) :
    Prop where
  together : Together exact text next after
  sound : lead.Sound next
  sound' : other.Sound after
  likewise : exact = true → lead.Likewise text other

/-- A character counts as another one where a group is repeated. -/
def repeats (flags : Flags) (expected c : Char) : Bool :=
  if flags.ignoreCase then lowerCode flags expected.toNat == lowerCode flags c.toNat
  else expected == c

/-- Two matchers are in step whatever comes after them. -/
def Matcher.InStep (exact : Bool) (text : Text) (lead other : Lead) (body body' : Matcher) : Prop :=
  ∀ next after, Told exact text lead other next after → Together exact text (body next) (body' after)

variable {exact : Bool} {text : Text}

/-! ## Leads -/

/-- Nothing is asked of the text. -/
theorem Together.told {next after : Continuation} (together : Together exact text next after) :
    Told exact text .undecided .undecided next after :=
  ⟨together, Lead.sound_undecided _, Lead.sound_undecided _, fun _ => .undecided⟩

/-- The character after a place of a text is one of the text. -/
theorem Place.mem_text {place : Place} (inside : place.text = text) {c : Char} {rest : Text}
    (here : place.after = c :: rest) : c ∈ text := by
  rw [← inside, Place.text, here]
  exact List.mem_append_right _ (List.mem_cons_self ..)

/-- What is asked of a text holds alike at each of its places. -/
theorem Lead.Likewise.admits_eq {lead other : Lead} (likewise : lead.Likewise text other)
    {place : Place} (inside : place.text = text) :
    other.admits place.after = lead.admits place.after := by
  cases likewise with
  | char code => rfl
  | undecided => rfl
  | test agree =>
    cases here : place.after with
    | nil => rfl
    | cons c rest => exact agree c (Place.mem_text inside here)

/-! ## Abreast states -/

namespace Abreast

variable {one two : State}

/-- States that are exactly abreast are abreast. -/
theorem of_exact (abreast : Abreast true text one two) : Abreast exact text one two :=
  ⟨abreast.toAlike, fun _ => abreast.same rfl⟩

/-- A state is abreast with itself. -/
theorem refl {state : State} (inside : state.toPlace.text = text)
    (noted : state.noted.text = text) : Abreast exact text state state :=
  ⟨.refl inside noted, fun _ => rfl⟩

/-- A failure here. -/
theorem failed (abreast : Abreast exact text one two) :
    (Attempt.failed one.noted).InStep exact text (.failed two.noted) :=
  .failed abreast.noted abreast.same

/-- A failure that notes its own place. -/
theorem failedHere (abreast : Abreast exact text one two) :
    (Attempt.failed one.toPlace).InStep exact text (.failed two.toPlace) :=
  .failed abreast.inside fun _ => abreast.place

/-- The place is noted. -/
theorem note (abreast : Abreast exact text one two) : Abreast exact text one.note two.note :=
  ⟨abreast.toAlike.note, fun _ => abreast.place⟩

/-- Another place of the text. -/
theorem goTo (abreast : Abreast exact text one two) {place : Place} (inside : place.text = text) :
    Abreast exact text (one.goTo place) (two.goTo place) :=
  ⟨abreast.toAlike.goTo inside, fun _ => rfl⟩

/-- Other places are noted. -/
theorem notePlaces (abreast : Abreast exact text one two) {noted other : Place}
    (inside : noted.text = text) (same : exact = true → other = noted) :
    Abreast exact text { one with noted := noted } { two with noted := other } :=
  ⟨abreast.toAlike.notePlaces inside other, same⟩

/-- One character further. -/
theorem step (abreast : Abreast exact text one two) {c : Char} {rest : Text}
    (here : one.after = c :: rest) :
    Abreast exact text (one.step c rest) (two.step c rest) :=
  ⟨abreast.toAlike.step here, abreast.same⟩

/-- A group is opened. -/
theorem openGroup (abreast : Abreast exact text one two) (index : Nat) :
    Abreast exact text (one.openGroup index) (two.openGroup index) :=
  ⟨abreast.toAlike.openGroup index, abreast.same⟩

/-- A group is closed. -/
theorem closeGroup (abreast : Abreast exact text one two) (index : Nat) :
    Abreast exact text (one.closeGroup index) (two.closeGroup index) :=
  ⟨abreast.toAlike.closeGroup index, abreast.same⟩

end Abreast

/-- The characters after a place of a text are those of the text. -/
theorem Alike.mem_text {one two : State} (alike : Alike text one two) {c : Char}
    (found : c ∈ one.after) : c ∈ text := by
  rw [← alike.inside]
  exact List.mem_append_right _ found

/-- Another place is noted for failures. -/
theorem Attempt.InStep.failAt {first second : Attempt} (inStep : first.InStep exact text second)
    {place other : Place} (inside : place.text = text) (same : exact = true → other = place) :
    (first.failAt place).InStep exact text (second.failAt other) := by
  cases inStep with
  | failed _ _ => exact .failed inside same
  | matched abreast => exact .matched abreast

namespace Matcher

variable {lead other : Lead} {one one' two two' body body' : Matcher}

/-- What is in step whatever follows is in step where it is told what follows. -/
theorem InStep.told (inStep : body.InStep exact text .undecided .undecided body') :
    body.InStep exact text lead other body' :=
  fun next after told => inStep next after told.together.told

/-! ## Single steps -/

/-- Going on at once. -/
theorem inStep_id : Matcher.InStep exact text lead other (fun next => next) fun next => next :=
  fun _ _ told => told.together

/-- One character, of classes that agree on the text. -/
theorem inStep_one {accepts also : Char → Bool} (agree : ∀ c ∈ text, also c = accepts c) :
    (Matcher.one accepts).InStep exact text lead other (Matcher.one also) := by
  intro next after told s t abreast
  unfold Matcher.one
  rw [abreast.after]
  split
  · exact abreast.failed
  · next c rest here =>
    rw [agree c (Place.mem_text abreast.inside here)]
    split
    · exact told.together _ _ (abreast.step here)
    · exact abreast.failed

/-- A condition on the place. -/
theorem inStep_test {condition also : State → Bool}
    (agree : ∀ s t, Alike text s t → also t = condition s) :
    (Matcher.test condition).InStep exact text lead other (Matcher.test also) := by
  intro next after told s t abreast
  unfold Matcher.test
  rw [agree s t abreast.toAlike]
  split
  · exact told.together s t abreast
  · exact abreast.failed

/-- One matcher after the other. What the first one is told comes from the second one. -/
theorem InStep.seq {asked asked' : Lead} (first : one.InStep exact text asked asked' one')
    (second : ∀ next after, Told exact text lead other next after →
      Told exact text asked asked' (two next) (two' after)) :
    (one.seq two).InStep exact text lead other (one'.seq two') :=
  fun next after told => first (two next) (two' after) (second next after told)

/-- Matchers that are tried if the text may go on as they ask: one that is not tried would fail,
and so fails the other one. -/
theorem InStep.offered {asked asked' : Lead}
    (inStep : body.InStep exact text .undecided .undecided body')
    (sound : ∀ next, asked.Sound (body next)) (sound' : ∀ next, asked'.Sound (body' next))
    (likewise : exact = true → asked.Likewise text asked') :
    (Matcher.offered asked body).InStep exact text lead other (Matcher.offered asked' body') := by
  intro next after told s t abreast
  have both := inStep next after told.together.told _ _ abreast.note
  have admits := sound next s.note
  have admits' := sound' after t.note
  have same (held : exact = true) : asked'.admits t.after = asked.admits s.after := by
    rw [abreast.after]
    exact (likewise held).admits_eq abreast.inside
  unfold Matcher.offered
  generalize attempt : body next s.note = first at both ⊢
  generalize attempt' : body' after t.note = second at both ⊢
  by_cases here : asked.admits s.after = true <;> by_cases there : asked'.admits t.after = true
  · rw [if_pos here, if_pos there]
    exact both
  · rw [if_pos here, if_neg there]
    cases both with
    | failed inside _ => exact .failed inside fun held => absurd ((same held).trans here) there
    | matched _ => exact absurd (admits' _ attempt') there
  · rw [if_neg here, if_pos there]
    cases both with
    | failed _ _ => exact .failed abreast.noted fun held => absurd ((same held).symm.trans there) here
    | matched _ => exact absurd (admits _ attempt) here
  · rw [if_neg here, if_neg there]
    exact abreast.failed

/-- A choice. -/
theorem InStep.alt (first : one.InStep exact text lead other one')
    (second : two.InStep exact text lead other two') :
    (one.alt two).InStep exact text lead other (one'.alt two') := by
  intro next after told s t abreast
  have both := first next after told s t abreast
  unfold Matcher.alt
  generalize one next s = attempt at both ⊢
  generalize one' after t = attempt' at both ⊢
  cases both with
  | failed inside same => exact second next after told _ _ (abreast.notePlaces inside same)
  | matched ended => exact .matched ended

/-- A matcher between the opening and the closing of a group. -/
theorem InStep.group (inStep : body.InStep exact text .undecided .undecided body') (index : Nat) :
    (Matcher.group index body).InStep exact text lead other (Matcher.group index body') := by
  intro next after told s t abreast
  have closes : Together exact text (fun ended => next (ended.closeGroup index))
      fun ended => after (ended.closeGroup index) :=
    fun s t abreast => told.together _ _ (abreast.closeGroup index)
  exact inStep _ _ closes.told _ _ (abreast.openGroup index)

/-- One of two matchers. -/
theorem InStep.ifGroup (yes : one.InStep exact text lead other one')
    (no : two.InStep exact text lead other two') (index : Nat) :
    (Matcher.ifGroup index one two).InStep exact text lead other
      (Matcher.ifGroup index one' two') := by
  intro next after told s t abreast
  unfold Matcher.ifGroup
  rw [abreast.group?_eq]
  split
  · exact yes next after told s t abreast
  · exact no next after told s t abreast

/-- The same characters of the text again, which count as the same ones under both flags. -/
theorem inStep_literally {flags flags' : Flags} {expected : Text}
    (agree : ∀ c ∈ expected, ∀ d ∈ text, repeats flags' c d = repeats flags c d) :
    (Matcher.literally flags expected).InStep exact text .undecided .undecided
      (Matcher.literally flags' expected) := by
  induction expected with
  | nil => exact inStep_id
  | cons c expected ih =>
    obtain ⟨here, later⟩ := List.forall_mem_cons.1 agree
    exact (inStep_one here).seq fun next after told => (ih later next after told).told

/-- What a group has matched, again. -/
theorem inStep_again {flags flags' : Flags}
    (agree : ∀ c ∈ text, ∀ d ∈ text, repeats flags' c d = repeats flags c d)
    (index : Nat) :
    (Matcher.again flags index).InStep exact text lead other (Matcher.again flags' index) := by
  intro next after told s t abreast
  have same (start stop : Nat) : t.slice start stop = s.slice start stop := by
    simp only [State.slice, abreast.place]
  have within (start stop : Nat) : ∀ c ∈ s.slice start stop, c ∈ text := by
    intro c found
    rw [← abreast.inside]
    exact List.mem_of_mem_drop (List.mem_of_mem_take found)
  unfold Matcher.again
  rw [abreast.group?_eq]
  split
  · next start stop _ =>
    rw [same]
    exact inStep_literally (fun c found => agree c (within start stop c found)) next after
      told.together.told s t abreast
  · exact abreast.failed

/-! ## Final matches -/

/-- The first matches of matchers in step. -/
theorem InStep.first (inStep : body.InStep exact text .undecided .undecided body') {s t : State}
    (abreast : Abreast exact text s t) :
    (body.first s).InStep exact text (body'.first t) := by
  have ends : Together exact text (fun ended => .matched ended.note) fun ended =>
      .matched ended.note := fun s t abreast => .matched abreast.note
  exact inStep _ _ ends.told s t abreast

/-- Matchers whose first match is final. -/
theorem InStep.atomic (inStep : body.InStep exact text .undecided .undecided body') :
    (Matcher.atomic body).InStep exact text lead other (Matcher.atomic body') := by
  intro next after told s t abreast
  have both := inStep.first abreast.note
  unfold Matcher.atomic
  generalize body.first s.note = attempt at both ⊢
  generalize body'.first t.note = attempt' at both ⊢
  cases both with
  | failed _ _ => exact abreast.failedHere
  | matched ended => exact told.together _ _ ended

/-- Looks from the same place of the text. -/
theorem InStep.look (inStep : body.InStep exact text .undecided .undecided body') (negated : Bool)
    {start : Option Place} (inside : ∀ place ∈ start, place.text = text)
    {next after : Continuation} (together : Together exact text next after) {s t : State}
    (abreast : Abreast exact text s t) :
    (Matcher.look negated body start next s).InStep exact text
      (Matcher.look negated body' start after t) := by
  unfold Matcher.look
  cases start with
  | none =>
    cases negated with
    | true => exact together s t abreast
    | false => exact abreast.failed
  | some place =>
    have both := inStep.first (abreast.goTo (inside place rfl))
    simp only
    generalize body.first (s.goTo place) = attempt at both ⊢
    generalize body'.first (t.goTo place) = attempt' at both ⊢
    cases both with
    | failed noted same =>
      cases negated with
      | true => exact together _ _ (abreast.notePlaces noted same)
      | false => exact .failed noted same
    | matched ended =>
      cases negated with
      | true => exact .failed ended.noted ended.same
      | false =>
        exact together _ _ ⟨⟨abreast.place, ended.slots, abreast.inside, ended.noted⟩, ended.same⟩

end Matcher

end RoutePattern.Regex
