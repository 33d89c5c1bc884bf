import RoutePattern.Proofs.Matching.Comparison.Expression
import RoutePattern.Proofs.Reading.GroupCount

/-!
# Alternations

An alternation leads to a match exactly where one of its branches does (`Expr.isMatch_alternation`):
what the branches begin with together is a row of single steps, of which each goes on from one state
or fails, and a choice tries one branch after the other. An alternation that holds a group is no
set of characters.
-/
namespace RoutePattern.Regex

open Matcher (Inside)

/-- An attempt matches. -/
def Attempt.IsMatch (attempt : Attempt) : Prop := ∃ ended, attempt = .matched ended

/-- Whether going on matches does not hang on the places that have been noted. -/
def Stable (text : Text) (next : Continuation) : Prop := Precedes text (fun _ => True) next next

section Stable

variable {text : Text} {next : Continuation} {s t : State}

/-- A state of the text is like every state at its place that has matched the same. -/
theorem Matcher.Inside.alike (inside : Inside text s) (place : t.toPlace = s.toPlace)
    (slots : t.slots = s.slots) : Alike text s t := ⟨place, slots, inside.1, inside.2⟩

/-- A state whose place is noted is like the state. -/
theorem Matcher.Inside.note (inside : Inside text s) : Inside text s.note := ⟨inside.1, inside.1⟩

/-- Going on in the second way matches where going on in the first way does. -/
theorem Precedes.isMatch {ends : State → Prop} {other : Continuation}
    (precedes : Precedes text ends next other) (alike : Alike text s t)
    (found : (next s).IsMatch) : (other t).IsMatch := by
  obtain ⟨ended, matched⟩ := found
  have meets := precedes s t alike
  rw [matched] at meets
  exact meets.2

/-- A failure has noted a place of the text. -/
theorem Stable.noted (stable : Stable text next) (inside : Inside text s) {place : Place}
    (failed : next s = .failed place) : place.text = text := by
  have meets := stable s s (inside.alike rfl rfl)
  rw [failed] at meets
  exact meets

/-- Noting the place of a state changes nothing. -/
theorem Stable.isMatch_note (stable : Stable text next) (inside : Inside text s) :
    (next s.note).IsMatch ↔ (next s).IsMatch :=
  ⟨Precedes.isMatch stable (inside.note.alike rfl rfl), Precedes.isMatch stable (inside.alike rfl rfl)⟩

/-- What an expression goes on with is as stable as what comes after it. -/
theorem Stable.expr (stable : Stable text next) (expr : Expr) (flags : Flags) {lead : Lead}
    (told : lead.Sound next) : Stable text (expr.matcher flags lead next) :=
  Expr.below_matcher (Expr.widens_refl expr flags) text lead lead _ next next stable told

end Stable

/-! ## Choices -/

namespace Matcher

variable {text : Text} {next : Continuation} {s : State} {one two body : Matcher}

/-- A matcher that is tried if the text may go on as it asks. -/
theorem isMatch_offered (stable : Stable text (body next)) {asked : Lead}
    (sound : asked.Sound (body next)) (inside : Inside text s) :
    (Matcher.offered asked body next s).IsMatch ↔ (body next s).IsMatch := by
  rw [← stable.isMatch_note inside]
  unfold Matcher.offered
  split
  · exact Iff.rfl
  · next refused =>
    constructor
    · rintro ⟨_, matched⟩
      exact Attempt.noConfusion matched
    · rintro ⟨ended, matched⟩
      exact absurd (sound s.note ended matched) refused

/-- A matcher that is tried if the text may go on as it asks is as stable as the matcher. -/
theorem stable_offered (stable : Stable text (body next)) {asked : Lead} :
    Stable text (Matcher.offered asked body next) := by
  intro s t alike
  have meets := stable _ _ alike.note
  unfold Matcher.offered
  rw [alike.after]
  split
  · exact meets
  · exact alike.noted

/-- One matcher or, failing that, another one. -/
theorem isMatch_alt (first : Stable text (one next)) (second : Stable text (two next))
    (inside : Inside text s) :
    (one.alt two next s).IsMatch ↔ (one next s).IsMatch ∨ (two next s).IsMatch := by
  unfold Matcher.alt
  cases attempt : one next s with
  | matched ended => exact ⟨fun _ => .inl ⟨ended, rfl⟩, fun _ => ⟨ended, rfl⟩⟩
  | failed noted =>
    have here : Inside text { s with noted := noted } := ⟨inside.1, first.noted inside attempt⟩
    constructor
    · exact fun found => .inr (Precedes.isMatch second (here.alike rfl rfl) found)
    · rintro (⟨_, matched⟩ | found)
      · exact Attempt.noConfusion matched
      · exact Precedes.isMatch second (inside.alike rfl rfl) found

end Matcher

namespace Expr

variable {text : Text} {flags : Flags} {next : Continuation} {s : State}

/-- A choice matches where one of its expressions does. -/
theorem isMatch_choice (stable : Stable text next) (first : Expr) (others : List Expr)
    (inside : Inside text s) :
    ((choice first others).matcher flags .undecided next s).IsMatch ↔
      ∃ expr ∈ first :: others, (expr.matcher flags .undecided next s).IsMatch := by
  induction others generalizing first with
  | nil => simp [choice]
  | cons second others ih =>
    have undecided := Lead.sound_undecided next
    have firstStable := stable.expr first flags undecided
    have restStable := stable.expr (choice second others) flags undecided
    have firstSound : ((first.lead? flags).getD .undecided).Sound
        (first.matcher flags .undecided next) := first.sound_lead flags .undecided undecided
    have restSound : (((choice second others).lead? flags).getD .undecided).Sound
        ((choice second others).matcher flags .undecided next) :=
      (choice second others).sound_lead flags .undecided undecided
    -- A choice goes on with another one as it is, and offers anything else.
    have rest : Stable text ((if (choice second others).isChoice then
          (choice second others).matcher flags .undecided
        else .offered (((choice second others).lead? flags).getD .undecided)
          ((choice second others).matcher flags .undecided)) next) ∧
        (((if (choice second others).isChoice then
          (choice second others).matcher flags .undecided
        else .offered (((choice second others).lead? flags).getD .undecided)
          ((choice second others).matcher flags .undecided)) next s).IsMatch ↔
          ((choice second others).matcher flags .undecided next s).IsMatch) := by
      split
      · exact ⟨restStable, Iff.rfl⟩
      · exact ⟨Matcher.stable_offered restStable,
          Matcher.isMatch_offered restStable restSound inside⟩
    rw [List.exists_mem_cons_iff, ← ih second, ← rest.2,
      ← Matcher.isMatch_offered firstStable firstSound inside,
      ← Matcher.isMatch_alt (Matcher.stable_offered firstStable) rest.1 inside]
    rfl

end Expr

/-! ## Common beginnings -/

/-- From every state a matcher goes on from one state, or fails. -/
def Matcher.Straight (matcher : Matcher) : Prop :=
  ∀ s, (∃ t, ∀ next, matcher next s = next t) ∨ ∃ place, ∀ next, matcher next s = .failed place

namespace Matcher.Straight

variable {one two : Matcher}

/-- Going on at once. -/
theorem id : Straight fun next => next := fun s => .inl ⟨s, fun _ => rfl⟩

/-- One matcher after the other. -/
theorem seq (first : one.Straight) (second : two.Straight) : (one.seq two).Straight := by
  intro s
  rcases first s with ⟨t, goesOn⟩ | ⟨place, fails⟩
  · rcases second t with ⟨u, goesOn'⟩ | ⟨place, fails⟩
    · exact .inl ⟨u, fun next => (goesOn (two next)).trans (goesOn' next)⟩
    · exact .inr ⟨place, fun next => (goesOn (two next)).trans (fails next)⟩
  · exact .inr ⟨place, fun next => fails (two next)⟩

/-- One character of a class. -/
theorem character (accepts : Char → Bool) : (Matcher.one accepts).Straight := by
  intro s
  unfold Matcher.one
  cases s.after with
  | nil => exact .inr ⟨s.noted, fun _ => rfl⟩
  | cons c rest =>
    by_cases accepted : accepts c = true
    · exact .inl ⟨s.step c rest, fun _ => if_pos accepted⟩
    · exact .inr ⟨s.noted, fun _ => if_neg accepted⟩

/-- A condition on the place. -/
theorem test (condition : State → Bool) : (Matcher.test condition).Straight := by
  intro s
  by_cases holds : condition s = true
  · exact .inl ⟨s, fun _ => if_pos holds⟩
  · exact .inr ⟨s.noted, fun _ => if_neg holds⟩

/-- The same characters again. -/
theorem literally (flags : Flags) (expected : Text) :
    (Matcher.literally flags expected).Straight := by
  induction expected with
  | nil => exact id
  | cons c expected ih => exact (character _).seq ih

/-- What a group has matched, again. -/
theorem again (flags : Flags) (index : Nat) : (Matcher.again flags index).Straight := by
  intro s
  unfold Matcher.again
  cases s.group? index with
  | none => exact .inr ⟨s.noted, fun _ => rfl⟩
  | some span => exact literally flags (s.slice span.1 span.2) s

end Matcher.Straight

namespace Expr

variable {text : Text} {flags : Flags} {next : Continuation} {s : State}

/-- An expression that asks for one thing goes on from one state, or fails; what comes after it is
nothing to it. -/
theorem straight_of_isPlain {expr : Expr} (plain : expr.isPlain = true) (flags : Flags) :
    ∃ matcher, matcher.Straight ∧ ∀ lead, expr.matcher flags lead = matcher := by
  cases expr with
  | char code => exact ⟨_, .character _, fun _ => rfl⟩
  | notChar code => exact ⟨_, .character _, fun _ => rfl⟩
  | any => exact ⟨_, .character _, fun _ => rfl⟩
  | set negated items => exact ⟨_, .character _, fun _ => rfl⟩
  | anchor place => exact ⟨_, .test _, fun _ => rfl⟩
  | again index => exact ⟨_, .again flags index, fun _ => rfl⟩
  | _ => exact absurd plain Bool.false_ne_true

/-- A row of such expressions goes on from one state, or fails. -/
theorem straight_of_all_isPlain {exprs : List Expr} (plain : ∀ expr ∈ exprs, expr.isPlain = true)
    (flags : Flags) :
    ∃ matcher, matcher.Straight ∧ ∀ lead, (sequence exprs).matcher flags lead = matcher := by
  induction exprs with
  | nil => exact ⟨_, .id, fun _ => rfl⟩
  | cons expr exprs ih =>
    obtain ⟨one, first, known⟩ := straight_of_isPlain (plain expr (List.mem_cons_self ..)) flags
    obtain ⟨two, second, known'⟩ := ih fun expr found => plain expr (List.mem_cons_of_mem _ found)
    refine ⟨one.seq two, first.seq second, fun lead => ?_⟩
    rw [← known (((sequence exprs).lead? flags).getD lead), ← known' lead]
    rfl

/-- What all branches begin with asks for one thing each time. -/
theorem isPlain_common {first : List Expr} {others : List (List Expr)} :
    ∀ part ∈ (factor first others).1, part.isPlain = true := by
  induction first generalizing others with
  | nil => exact fun part found => absurd found List.not_mem_nil
  | cons part first ih =>
    unfold factor
    split
    · next shared =>
      intro other found
      rcases List.mem_cons.1 found with rfl | later
      · exact (Bool.and_eq_true_iff.1 shared).1
      · exact ih other later
    · exact fun part found => absurd found List.not_mem_nil

/-- Where several rows begin alike, with parts that ask for one thing each, the choice of what
remains of them matches after this beginning where one of the rows does. -/
theorem isMatch_common (stable : Stable text next) {common : List Expr}
    (plain : ∀ part ∈ common, part.isPlain = true) (first : List Expr) (others : List (List Expr))
    (inside : Inside text s) :
    ((sequence (common ++ [choice (sequence first) (others.map sequence)])).matcher flags .undecided
        next s).IsMatch ↔
      ∃ rest ∈ first :: others,
        ((sequence (common ++ rest)).matcher flags .undecided next s).IsMatch := by
  obtain ⟨matcher, straight, known⟩ := straight_of_all_isPlain plain flags
  simp only [matcher_sequence_append, known, Matcher.seq]
  rcases straight s with ⟨t, goesOn⟩ | ⟨place, fails⟩
  · have reached : Inside text t := by
      have final : Precedes text (Inside text) Attempt.matched Attempt.matched :=
        fun s t alike => ⟨⟨alike.inside, alike.noted⟩, t, rfl⟩
      have meets := below_matcher (widens_refl (sequence common) flags) text .undecided .undecided
        (Inside text) _ _ final (Lead.sound_undecided _) s s (inside.alike rfl rfl)
      rw [known, goesOn] at meets
      exact meets.1
    simp only [goesOn]
    exact (isMatch_choice stable _ _ reached).trans (by simp)
  · simp only [fails]
    constructor
    · rintro ⟨_, matched⟩
      exact Attempt.noConfusion matched
    · rintro ⟨_, _, _, matched⟩
      exact Attempt.noConfusion matched

/-- An alternation that holds a group matches where one of its branches does. -/
theorem isMatch_alternation (stable : Stable text next) {branches : List (List Expr)}
    (groups : 0 < (sequence (alternation branches)).groupCount) (inside : Inside text s) :
    ((sequence (alternation branches)).matcher flags .undecided next s).IsMatch ↔
      ∃ branch ∈ branches, ((sequence branch).matcher flags .undecided next s).IsMatch := by
  rw [groupCount_alternation] at groups
  fun_cases alternation branches with
  | case1 => exact absurd groups (Nat.lt_irrefl 0)
  | case2 branch => simp
  | case3 first others _ common rest factored items single =>
    have none := groupCount_of_branchItems? single
    rw [← groupCount_factor, factored, none] at groups
    exact absurd groups (Nat.lt_irrefl 0)
  | case4 first others _ common rest factored one more mapped _ =>
    obtain ⟨left, lefts, rfl, rfl, rfl⟩ := List.map_eq_cons_iff.1 mapped
    have plain := @isPlain_common first others
    have whole := @factor_append first others
    rw [factored] at plain whole
    rw [isMatch_common stable plain left lefts inside, ← whole]
    simp
  | case5 first others _ common rest factored mapped _ =>
    rw [← groupCount_factor, factored, List.map_eq_nil_iff.1 mapped] at groups
    exact absurd groups (Nat.lt_irrefl 0)

/-- Alternations that hold groups and differ in the end of their last branch: the second one matches
if its last branch matches where the last branch of the first one does. -/
theorem isMatch_last (stable : Stable text next) (inside : Inside text s)
    {branches : List (List Expr)} {branch one two : List Expr}
    (groups : branches = [] ∨
      0 < (sequence (alternation (branches ++ [branch ++ one]))).groupCount ∧
        0 < (sequence (alternation (branches ++ [branch ++ two]))).groupCount)
    (follows : ((sequence (branch ++ one)).matcher flags .undecided next s).IsMatch →
      ((sequence (branch ++ two)).matcher flags .undecided next s).IsMatch)
    (found : ((sequence (alternation (branches ++ [branch ++ one]))).matcher flags .undecided
      next s).IsMatch) :
    ((sequence (alternation (branches ++ [branch ++ two]))).matcher flags .undecided
      next s).IsMatch := by
  rcases groups with rfl | ⟨first, second⟩
  · exact follows found
  · rw [isMatch_alternation stable first inside] at found
    rw [isMatch_alternation stable second inside]
    obtain ⟨other, member, matched⟩ := found
    rcases List.mem_append.1 member with earlier | last
    · exact ⟨other, List.mem_append_left _ earlier, matched⟩
    · rw [List.mem_singleton.1 last] at matched
      exact ⟨_, List.mem_append_right _ (List.mem_singleton_self _), follows matched⟩

end Expr

end RoutePattern.Regex
