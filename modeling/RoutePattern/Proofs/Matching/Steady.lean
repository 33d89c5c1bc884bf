import RoutePattern.Proofs.Matching.Carried.Repetition

/-!
# Expressions without groups

A matcher without groups carries along what the groups have matched, as a rule without ever going
back (`Matcher.Keeps`), and so an expression without groups leaves the groups alone
(`Expr.keeps_matcher`). It also never goes back, unless a look-behind stands inside a possessive
repetition (`Expr.isSteady`): when one more repetition fails, the match goes on from the place that
was noted last, which may be one where the look-behind has started. Whether an expression matches
exactly one character shows by its form alone, and such an expression has no groups
(`Expr.groupCount_of_single?`).
-/
namespace RoutePattern.Regex

/-- How much of a state is kept. -/
inductive Care where
  /-- What the groups have matched. -/
  | groups
  /-- That, and the place is never taken back. -/
  | places
  /-- All that, and no earlier place is noted. -/
  | notes
  deriving DecidableEq

/-- A state has what the groups have matched and, where that counts, neither is nor has noted a
place before a position. -/
structure Kept (slots : List Slot) (least : Nat) (care : Care) (state : State) : Prop where
  slots : state.slots = slots
  place : care ≠ .groups → least ≤ state.position
  noted : care = .notes → least ≤ state.noted.position

/-- Where that counts, a place that has been noted is not before a position. -/
def Noted (least : Nat) (care : Care) (place : Place) : Prop :=
  care = .notes → least ≤ place.position

namespace Kept

variable {slots : List Slot} {least : Nat} {care : Care} {state : State}

/-- Nothing is asked of the place noted last but what is asked of every place that is noted. -/
theorem marks (slots : List Slot) (least : Nat) (care : Care) :
    Marks (Noted least care) (Kept slots least care) where
  here kept := by
    rintro rfl
    exact kept.place (by decide)
  last kept := kept.noted
  renote kept _ noted := ⟨kept.slots, kept.place, noted⟩

/-- One character further. -/
theorem step (kept : Kept slots least care state) (c : Char) (rest : Text) :
    Kept slots least care (state.step c rest) :=
  ⟨kept.slots, fun counts => Nat.le_succ_of_le (kept.place counts), kept.noted⟩

/-- Another place, which is not too early. -/
theorem goTo (kept : Kept slots least care state) {place : Place}
    (later : care ≠ .groups → least ≤ place.position) : Kept slots least care (state.goTo place) := by
  refine ⟨kept.slots, later, ?_⟩
  rintro rfl
  exact later (by decide)

end Kept

/-- No repetition of characters goes back. -/
theorem position_le_of_mem_run {accepts : Char → Bool} {most : Option Nat} {before after : Text}
    {place : Place} (found : place ∈ Place.run accepts most before after) :
    before.length ≤ place.position := by
  induction after generalizing most before with
  | nil =>
    rw [Place.run, List.mem_singleton] at found
    exact found ▸ Nat.le_refl _
  | cons c after ih =>
    rw [Place.run] at found
    rcases List.mem_cons.1 found with rfl | later
    · exact Nat.le_refl _
    · split at later
      · have further := ih later
        rw [List.length_cons] at further
        omega
      · exact absurd later List.not_mem_nil

namespace Matcher

/-- A matcher leaves the groups alone and, where that counts, never goes back. -/
def Keeps (care : Care) (matcher : Matcher) : Prop :=
  ∀ slots least, matcher.Carries (Noted least care) (Kept slots least care) (Kept slots least care)

variable {one two body : Matcher} {care : Care} {slots : List Slot} {least : Nat} {state : State}

/-- Where noted places do not count, a matcher that keeps the groups asks nothing of them. -/
theorem Keeps.meets (keeps : body.Keeps care) (ignored : care ≠ .notes)
    (kept : Kept slots least care state) {ends : State → Prop} {next : Continuation}
    (follows : ∀ state, Kept slots least care state → (next state).Meets (fun _ => True) ends) :
    (body next state).Meets (fun _ => True) ends := by
  have free (place : Place) : Noted least care place := fun counts => absurd counts ignored
  have meets := keeps slots least ends next
    (fun state kept => (follows state kept).mono fun place _ => free place) state kept
  exact meets.mono fun _ _ => trivial

/-- One character. -/
theorem keeps_one (accepts : Char → Bool) : (Matcher.one accepts).Keeps care :=
  fun slots least => carries_one (Kept.marks slots least care) fun _ c rest _ kept => kept.step c rest

/-- What a group has matched, again. -/
theorem keeps_again (flags : Flags) (index : Nat) : (Matcher.again flags index).Keeps care :=
  fun slots least => carries_again (Kept.marks slots least care)
    (fun _ c rest _ kept => kept.step c rest) flags index

/-- A look from another place, which must not be earlier where that counts. -/
theorem Keeps.look (keeps : body.Keeps care) (kept : Kept slots least care state)
    {start : Option Place} (near : care = .notes → ∀ place ∈ start, least ≤ place.position)
    (negated : Bool) {ends : State → Prop} {next : Continuation}
    (follows : ∀ state, Kept slots least care state →
      (next state).Meets (Noted least care) ends) :
    (Matcher.look negated body start next state).Meets (Noted least care) ends := by
  refine meets_look (Kept.marks ..) kept (fun place here => ?_) negated follows
  -- Where noted places do not count, the look may start anywhere.
  obtain ⟨lowest, low, same⟩ : ∃ lowest, lowest ≤ place.position ∧
      (care = .notes → lowest = least) := by
    by_cases counts : care = .notes
    · exact ⟨least, near counts place here, fun _ => rfl⟩
    · exact ⟨0, Nat.zero_le _, fun wrong => absurd wrong counts⟩
  have inside : Kept slots lowest care (state.goTo place) :=
    ⟨kept.slots, fun _ => low, fun _ => low⟩
  have noted (place : Place) (given : Noted lowest care place) : Noted least care place :=
    fun counts => same counts ▸ given counts
  have meets := (keeps slots lowest).first (Kept.marks ..) inside
  refine meets.imp noted fun ended found => ⟨noted _ found.noted, ?_⟩
  exact ⟨found.slots, kept.place, noted _ found.noted⟩

/-- Repetitions of one character. -/
theorem keeps_chars (charTest : CharTest) (fewest : Nat) (most : Option Nat) (appetite : Appetite)
    (lead : Lead) : (Matcher.chars charTest fewest most appetite lead).Keeps care := by
  intro slots least ends next follows state kept
  have later (limit : Option Nat) (place : Place)
      (found : place ∈ Place.run charTest.accepts limit state.before state.after)
      (counts : care ≠ .groups) : least ≤ place.position :=
    Nat.le_trans (kept.place counts) (position_le_of_mem_run found)
  refine meets_chars (fun limit place found => ?_) kept.noted fun place found last noted => ?_
  · rintro rfl
    exact later limit place found (by decide)
  · exact follows _ ⟨kept.slots, later most place (List.mem_of_mem_drop found), noted⟩

/-- Repetitions of a matcher, which must not go back even when it fails if they are possessive. -/
theorem Keeps.loop (keeps : body.Keeps care) {appetite : Appetite}
    (final : care ≠ .groups → appetite = .possessive → body.Keeps .notes) (fewest : Nat)
    (most : Option Nat) (groups : Option Nat) :
    (Matcher.loop fewest most appetite groups body).Keeps care := by
  intro slots least
  refine (keeps slots least).loop (Kept.marks ..) ?_ fewest most groups
  intro possessive state place kept failed
  -- One more repetition notes no place before the one where it starts.
  refine kept.goTo fun counts => ?_
  have outset : Kept slots least .notes state.note :=
    ⟨kept.slots, fun _ => kept.place counts, fun _ => kept.place counts⟩
  have meets := (final counts possessive slots least).first (Kept.marks ..) outset
  exact meets.failed failed rfl

end Matcher

namespace Expr

/-- Expressions one after the other are steady if each of them is. -/
theorem isSteady_sequence (possessive : Bool) (parts : List Expr) :
    (Expr.sequence parts).isSteady possessive = parts.all (·.isSteady possessive) := by
  induction parts with
  | nil => rfl
  | cons part parts ih =>
    rw [List.all_cons, ← ih]
    rfl

/-- What an expression has to be for so much to be kept. -/
def Allows (expr : Expr) (care : Care) : Prop :=
  care ≠ .groups → expr.isSteady (decide (care = .notes)) = true

/-- An expression of two allows what both allow. -/
theorem Allows.both {expr first second : Expr} {care : Care} (allows : expr.Allows care)
    (both : ∀ possessive, expr.isSteady possessive =
      (first.isSteady possessive && second.isSteady possessive)) :
    first.Allows care ∧ second.Allows care := by
  constructor
  · intro counts
    have steady := allows counts
    rw [both] at steady
    exact (Bool.and_eq_true_iff.1 steady).1
  · intro counts
    have steady := allows counts
    rw [both] at steady
    exact (Bool.and_eq_true_iff.1 steady).2

/-- An expression without groups leaves the groups alone and, where it is steady, never goes
back. -/
theorem keeps_matcher {expr : Expr} (free : expr.groupCount = 0) {care : Care}
    (allows : expr.Allows care) (flags : Flags) (lead : Lead) :
    (expr.matcher flags lead).Keeps care := by
  induction expr generalizing care flags lead with
  | empty => exact fun _ _ => Matcher.carries_id
  | char code => exact Matcher.keeps_one _
  | notChar code => exact Matcher.keeps_one _
  | any => exact Matcher.keeps_one _
  | set negated items => exact Matcher.keeps_one _
  | anchor place => exact fun slots least => Matcher.carries_test (Kept.marks slots least care) _
  | again index => exact Matcher.keeps_again flags index
  | group index body ih => exact absurd free (Nat.succ_ne_zero _)
  | seq first second one two =>
    obtain ⟨freeOne, freeTwo⟩ := Nat.add_eq_zero_iff.1 free
    obtain ⟨allowsOne, allowsTwo⟩ := allows.both fun _ => rfl
    exact fun slots least => (one freeOne allowsOne flags _ slots least).seq
      (two freeTwo allowsTwo flags lead slots least)
  | alt first second one two =>
    obtain ⟨freeOne, freeTwo⟩ := Nat.add_eq_zero_iff.1 free
    obtain ⟨allowsOne, allowsTwo⟩ := allows.both fun _ => rfl
    intro slots least
    have marks := Kept.marks slots least care
    have later := two freeTwo allowsTwo flags .undecided slots least
    refine ((one freeOne allowsOne flags .undecided slots least).offered marks _).alt marks ?_
    split
    · exact later
    · exact later.offered marks _
  | ifGroup index yes no one two =>
    obtain ⟨freeOne, freeTwo⟩ := Nat.add_eq_zero_iff.1 free
    obtain ⟨allowsOne, allowsTwo⟩ := allows.both fun _ => rfl
    exact fun slots least => (one freeOne allowsOne flags _ slots least).ifGroup
      (two freeTwo allowsTwo flags lead slots least) index
  | flagged change body ih => exact ih free allows _ _
  | atomic body ih =>
    exact fun slots least => (ih free allows flags .undecided slots least).atomic
      (Kept.marks slots least care) (Kept.marks slots least care)
  | ahead negated body ih =>
    intro slots least ends next follows state kept
    show (Matcher.look negated (body.matcher flags .undecided) (some state.toPlace) next state).Meets
      _ _
    refine (ih free allows flags .undecided).look kept (fun counts place here => ?_) negated follows
    obtain rfl := Option.some.inj here
    exact (Kept.marks slots least care).here kept counts
  -- A look behind notes earlier places, so it is not allowed where noted places count.
  | behind negated width body ih =>
    have inside : body.Allows care := fun counts => (Bool.and_eq_true_iff.1 (allows counts)).2
    intro slots least ends next follows state kept
    show (Matcher.look negated (body.matcher flags .undecided) (state.back? width.least) next
      state).Meets _ _
    refine (ih free inside flags .undecided).look kept (fun counts => ?_) negated follows
    subst counts
    exact absurd (Bool.and_eq_true_iff.1 (allows (by decide))).1 Bool.false_ne_true
  | loop fewest most appetite body ih =>
    have inside : body.Allows care := fun counts => (Bool.and_eq_true_iff.1 (allows counts)).1
    unfold Expr.matcher
    split
    · exact Matcher.keeps_chars _ _ _ _ _
    · refine (ih free inside flags .undecided).loop (fun counts possessive => ?_) _ _ _
      subst possessive
      have final := (Bool.and_eq_true_iff.1 (allows counts)).2
      exact ih free (fun _ => by simpa using final) flags .undecided

end Expr

/-- Parts of a branch that have no groups and never go back. -/
def Plain (parts : List Expr) : Prop :=
  ∀ part ∈ parts, part.groupCount = 0 ∧ part.isSteady false = true

instance (parts : List Expr) : Decidable (Plain parts) :=
  inferInstanceAs (Decidable (∀ part ∈ parts, part.groupCount = 0 ∧ part.isSteady false = true))

/-- Such a part keeps the groups and the place. -/
theorem Plain.keeps {part : Expr} {parts : List Expr} (plain : Plain (part :: parts))
    (flags : Flags) (lead : Lead) : (part.matcher flags lead).Keeps .places := by
  obtain ⟨free, steady⟩ := plain part (List.mem_cons_self ..)
  have allows : part.Allows .places := fun _ => steady
  exact Expr.keeps_matcher free allows flags lead

/-- The characters of a literal are such parts. -/
theorem plain_chars (text : Text) : Plain (text.map fun c => .char c.toNat) := by
  intro part found
  obtain ⟨c, -, rfl⟩ := List.mem_map.1 found
  exact ⟨rfl, rfl⟩

/-! ## Expressions of one character -/

namespace Expr

/-- An expression of one character has no groups. -/
theorem groupCount_of_single? {expr : Expr} {flags : Flags} {charTest : CharTest}
    (single : expr.single? flags = some charTest) : expr.groupCount = 0 := by
  fun_induction Expr.single? flags expr with
  | case1 | case2 | case3 | case4 => rfl
  | case5 flags first ih => exact ih single
  | case6 flags change body ih => exact ih single
  | case7 => exact absurd single (by simp)

/-- An expression that is not of one character is so under no flags. -/
theorem single?_eq_none {expr : Expr} {flags : Flags} (several : expr.single? flags = none)
    (more : Flags) : expr.single? more = none := by
  fun_induction Expr.single? flags expr generalizing more with
  | case1 | case2 | case3 | case4 => exact absurd several (by simp)
  | case5 flags first ih => exact ih several more
  | case6 flags change body ih => exact ih several _
  | case7 flags expr char notChar any set seq flagged =>
    unfold single?
    split <;> simp_all

end Expr

end RoutePattern.Regex
