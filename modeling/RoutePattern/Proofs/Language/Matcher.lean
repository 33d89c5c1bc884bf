import Mathlib.Computability.Language
import RoutePattern.Proofs.Matching.Comparison.Alternation

/-!
# The language of a matcher

As long as neither what groups have matched nor the places that have been noted decide anything, a
way of going on is known by the places that it matches from (`Accepts`), and a matcher by the texts
that it may take before it goes on (`Matcher.Denotes`). Which of these texts it prefers is left
open. Every way of building matchers that is neither final nor looks around keeps to this: one
matcher after the other takes the product of the languages, and a choice their sum.
-/
namespace RoutePattern.Regex

/-- The place after some text. -/
def Place.advance (place : Place) (taken rest : Text) : Place :=
  ⟨taken.reverse ++ place.before, rest⟩

/-- One text after the other. -/
@[simp] theorem Place.advance_advance (place : Place) (one two rest last : Text) :
    (place.advance one rest).advance two last = place.advance (one ++ two) last := by
  simp [advance]

/-- Going on matches exactly from the good places. -/
def Accepts (next : Continuation) (good : Place → Prop) : Prop :=
  ∀ s, (next s).IsMatch ↔ good s.toPlace

/-- A good place comes after a text of a language. -/
def Before (language : Language Char) (good : Place → Prop) (place : Place) : Prop :=
  ∃ taken ∈ language, ∃ rest, place.after = taken ++ rest ∧ good (place.advance taken rest)

section Before

variable {one two : Language Char} {good : Place → Prop} {place : Place}

/-- The empty text leaves a place where it is. -/
@[simp] theorem before_one : Before 1 good place ↔ good place := by
  constructor
  · rintro ⟨taken, found, rest, cut, here⟩
    obtain rfl := (Language.mem_one taken).1 found
    rw [List.nil_append] at cut
    subst cut
    exact here
  · exact fun here => ⟨[], Language.nil_mem_one, place.after, rfl, here⟩

/-- A text of the product is a text of the first language with one of the second after it. -/
theorem before_mul : Before (one * two) good place ↔ Before one (Before two good) place := by
  constructor
  · rintro ⟨taken, found, rest, cut, here⟩
    obtain ⟨first, mem, second, mem', rfl⟩ := Language.mem_mul.1 found
    rw [List.append_assoc] at cut
    refine ⟨first, mem, second ++ rest, cut, second, mem', rest, rfl, ?_⟩
    rwa [Place.advance_advance]
  · rintro ⟨first, mem, middle, cut, second, mem', rest, rfl, here⟩
    rw [Place.advance_advance] at here
    refine ⟨first ++ second, Language.append_mem_mul mem mem', rest, ?_, here⟩
    rw [cut, List.append_assoc]

/-- A text of the sum is one of either language. -/
theorem before_add :
    Before (one + two) good place ↔ Before one good place ∨ Before two good place := by
  constructor
  · rintro ⟨taken, found, later⟩
    rcases (Language.mem_add one two taken).1 found with first | second
    · exact .inl ⟨taken, first, later⟩
    · exact .inr ⟨taken, second, later⟩
  · rintro (⟨taken, found, later⟩ | ⟨taken, found, later⟩)
    · exact ⟨taken, (Language.mem_add one two taken).2 (.inl found), later⟩
    · exact ⟨taken, (Language.mem_add one two taken).2 (.inr found), later⟩

end Before

/-- An attempt that has failed is no match. -/
@[simp] theorem Attempt.not_isMatch_failed (noted : Place) : ¬(Attempt.failed noted).IsMatch :=
  fun ⟨_, same⟩ => Attempt.noConfusion same

/-- An attempt that has matched is a match. -/
@[simp] theorem Attempt.isMatch_matched (ended : State) : (Attempt.matched ended).IsMatch :=
  ⟨ended, rfl⟩

/-- Another place noted for a failure makes no match of it. -/
@[simp] theorem Attempt.isMatch_failAt (attempt : Attempt) (place : Place) :
    (attempt.failAt place).IsMatch ↔ attempt.IsMatch := by
  cases attempt <;> simp [failAt]

/-- A matcher takes a text of the language and goes on, where what comes after it asks of the text
what it is told. -/
def Matcher.Denotes (matcher : Matcher) (lead : Lead) (language : Language Char) : Prop :=
  ∀ next good, Accepts next good → lead.Sound next → Accepts (matcher next) (Before language good)

namespace Matcher

variable {one two body : Matcher} {lead : Lead} {language other : Language Char}

/-- A matcher that is told nothing. -/
theorem Denotes.told (denotes : body.Denotes .undecided language) : body.Denotes lead language :=
  fun next good accepts _ => denotes next good accepts (Lead.sound_undecided next)

/-- Going on at once. -/
theorem denotes_id : Denotes (fun next => next) lead 1 := by
  intro next good accepts _ s
  rw [before_one]
  exact accepts s

/-- The texts of one character of a class. -/
def letters (accepts : Char → Bool) : Language Char := {text | ∃ c, accepts c = true ∧ text = [c]}

/-- A character of a class comes next. -/
theorem before_letters {accepts : Char → Bool} {good : Place → Prop} {place : Place} :
    Before (letters accepts) good place ↔
      ∃ c rest, place.after = c :: rest ∧ accepts c = true ∧ good (place.advance [c] rest) := by
  constructor
  · rintro ⟨_, ⟨c, accepted, rfl⟩, rest, cut, here⟩
    exact ⟨c, rest, cut, accepted, here⟩
  · rintro ⟨c, rest, cut, accepted, here⟩
    exact ⟨[c], ⟨c, accepted, rfl⟩, rest, cut, here⟩

/-- One character of a class. -/
theorem denotes_one (accepts : Char → Bool) :
    (Matcher.one accepts).Denotes lead (letters accepts) := by
  intro next good follows _ s
  rw [before_letters]
  unfold Matcher.one
  split
  · next nothing => simp [nothing]
  · next c rest cut =>
    by_cases accepted : accepts c = true
    · rw [if_pos accepted]
      exact (follows _).trans (by simp [cut, accepted, State.step, Place.advance])
    · simp [cut, accepted]

/-- One matcher after the other. What the first one is told comes from the second one. -/
theorem Denotes.seq {asked : Lead} (first : one.Denotes asked language)
    (second : two.Denotes lead other)
    (sound : ∀ next, lead.Sound next → asked.Sound (two next)) :
    (one.seq two).Denotes lead (language * other) := by
  intro next good accepts told s
  rw [before_mul]
  exact first (two next) _ (second next good accepts told) (sound next told) s

/-- A matcher that is tried if the text may go on as it asks. -/
theorem Denotes.offered (denotes : body.Denotes lead language) {asked : Lead}
    (sound : ∀ next, lead.Sound next → asked.Sound (body next)) :
    (Matcher.offered asked body).Denotes lead language := by
  intro next good accepts told s
  have noted : (body next s.note).IsMatch ↔ Before language good s.toPlace :=
    denotes next good accepts told s.note
  rw [← noted]
  unfold Matcher.offered
  split
  · exact Iff.rfl
  · next refused =>
    refine iff_of_false (Attempt.not_isMatch_failed _) ?_
    rintro ⟨ended, matched⟩
    exact refused (sound next told s.note ended matched)

/-- One matcher or, failing that, another one. -/
theorem Denotes.alt (first : one.Denotes lead language) (second : two.Denotes lead other) :
    (one.alt two).Denotes lead (language + other) := by
  intro next good accepts told s
  rw [before_add, ← first next good accepts told s]
  unfold Matcher.alt
  cases attempt : one next s with
  | matched ended => simp
  | failed noted =>
    simp only [Attempt.not_isMatch_failed, false_or]
    exact second next good accepts told { s with noted := noted }

/-- A group takes what its body takes. -/
theorem Denotes.group (denotes : body.Denotes .undecided language) (index : Nat) :
    (Matcher.group index body).Denotes lead language := by
  intro next good accepts _ s
  have closes : Accepts (fun ended => next (ended.closeGroup index)) good :=
    fun ended => accepts (ended.closeGroup index)
  exact denotes _ good closes (Lead.sound_undecided _) (s.openGroup index)

end Matcher

end RoutePattern.Regex
