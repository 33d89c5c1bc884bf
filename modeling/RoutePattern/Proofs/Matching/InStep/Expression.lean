import RoutePattern.Proofs.Matching.InStep.Repetition

/-!
# Expressions in step

An expression may be tried with and without regard to case. If every character, class and repeated
group in it says the same of the characters of a text, both are in step on this text
(`Expr.inStep_matcher`), although they may skip different places and note different ones on the way.
What has no case need not be looked at.
-/
namespace RoutePattern.Regex

/-- Flags that differ at most in their regard to case. -/
def Flags.SameButCase (flags other : Flags) : Prop :=
  other = { flags with ignoreCase := other.ignoreCase }

/-- With and without regard to case, an expression says the same of the characters of a text. Code
points that are spared need not, and what has to be exactly in step asks the same of the text. -/
def Expr.readsAlike (text : Text) (spared : List Nat) :
    Expr → (exact : Bool) → (flags other : Flags) → Bool
  | .empty, _, _, _ | .any, _, _, _ | .anchor _, _, _, _ => true
  | .char code, exact, flags, other =>
    spared.contains code ||
      ((text.all fun c => sameCode other code c.toNat == sameCode flags code c.toNat) &&
        (!exact || caseMatters other code == caseMatters flags code))
  | .notChar code, exact, flags, other =>
    (text.all fun c => sameCode other code c.toNat == sameCode flags code c.toNat) &&
      (!exact || caseMatters other code == caseMatters flags code)
  | .set negated items, exact, flags, other =>
    (text.all fun c =>
        setHolds other negated items c.toNat == setHolds flags negated items c.toNat) &&
      (!exact || items.any (·.caseMatters other) == items.any (·.caseMatters flags))
  | .again _, _, flags, other =>
    text.all fun c => text.all fun d => repeats other c d == repeats flags c d
  | .seq first second, exact, flags, other | .alt first second, exact, flags, other
  | .ifGroup _ first second, exact, flags, other =>
    first.readsAlike text spared exact flags other && second.readsAlike text spared exact flags other
  | .group _ body, exact, flags, other | .atomic body, exact, flags, other
  | .ahead _ body, exact, flags, other | .behind _ _ body, exact, flags, other =>
    body.readsAlike text spared exact flags other
  | .flagged change body, exact, flags, other =>
    body.readsAlike text spared exact (flags.apply change) (other.apply change)
  | .loop _ _ appetite body, exact, flags, other =>
    body.readsAlike text spared
      (exact || (appetite == .possessive && (body.single? flags).isNone)) flags other

/-! ## Flags -/

namespace Flags.SameButCase

variable {flags other : Flags}

/-- Turning a flag on leaves flags that differ at most in their regard to case. -/
theorem turnOn (same : flags.SameButCase other) (flag : FlagName) :
    (flags.turnOn flag).SameButCase (other.turnOn flag) := by
  rw [same]
  cases flag <;> rfl

/-- Turning a flag off leaves flags that differ at most in their regard to case. -/
theorem turnOff (same : flags.SameButCase other) (flag : FlagName) :
    (flags.turnOff flag).SameButCase (other.turnOff flag) := by
  rw [same]
  cases flag <;> rfl

/-- A change leaves flags that differ at most in their regard to case. -/
theorem apply (same : flags.SameButCase other) (change : FlagChange) :
    (flags.apply change).SameButCase (other.apply change) := by
  have folds {turn : Flags → FlagName → Flags} (names : List FlagName)
      (kept : ∀ {one two : Flags} (flag : FlagName), one.SameButCase two →
        (turn one flag).SameButCase (turn two flag)) {one two : Flags} (same : one.SameButCase two) :
      (names.foldl turn one).SameButCase (names.foldl turn two) := by
    induction names generalizing one two with
    | nil => exact same
    | cons flag names ih => exact ih (kept flag same)
  exact folds _ (fun flag kept => kept.turnOff flag) (folds _ (fun flag kept => kept.turnOn flag) same)

end Flags.SameButCase

/-! ## Characters and what is asked of the text -/

namespace Expr

variable {text : Text} {spared : List Nat} {exact : Bool} {expr : Expr} {flags other : Flags}

/-- A check of a row of characters, and of what has to be equal where expressions have to be exactly
in step. -/
theorem of_check {agrees : Char → Bool} {equal : Bool}
    (check : (text.all agrees && (!exact || equal)) = true) :
    (∀ c ∈ text, agrees c = true) ∧ (exact = true → equal = true) := by
  obtain ⟨agree, same⟩ := Bool.and_eq_true_iff.1 check
  refine ⟨List.all_eq_true.1 agree, fun held => ?_⟩
  rw [held] at same
  exact same

/-- A literal character says the same of the text. -/
theorem char_of_readsAlike (free : ∀ code ∈ spared, Unicode.hasCase code = false) {code : Nat}
    (alike : (char code).readsAlike text spared exact flags other = true) :
    (∀ c ∈ text, sameCode other code c.toNat = sameCode flags code c.toNat) ∧
      (exact = true → caseMatters other code = caseMatters flags code) := by
  rcases Bool.or_eq_true_iff.1 alike with spare | check
  · have caseless := caseMatters_of_caseless (free code (List.contains_iff_mem.1 spare))
    refine ⟨fun c _ => ?_, fun _ => (caseless other).trans (caseless flags).symm⟩
    rw [sameCode_of_caseless (.inl (caseless other)), sameCode_of_caseless (.inl (caseless flags))]
  · obtain ⟨agree, same⟩ := of_check check
    exact ⟨fun c found => eq_of_beq (agree c found), fun held => eq_of_beq (same held)⟩

/-- Case counts alike for the siblings of a code point where it matters alike. -/
theorem hasSiblings_eq (same : flags.SameButCase other) {code : Nat}
    (matters : caseMatters other code = caseMatters flags code) :
    hasSiblings other code = hasSiblings flags code := by
  have ascii : other.ascii = flags.ascii := by rw [same]
  rw [hasSiblings, hasSiblings, matters, ascii]

/-- An expression of one character is one with and without regard to case. -/
theorem single?_of_readsAlike (free : ∀ code ∈ spared, Unicode.hasCase code = false)
    (same : flags.SameButCase other)
    (alike : expr.readsAlike text spared exact flags other = true) {charTest : CharTest}
    (single : expr.single? flags = some charTest) :
    ∃ charTest', expr.single? other = some charTest' ∧
      charTest.Likewise exact text charTest' := by
  fun_induction Expr.single? flags expr generalizing other charTest with
  | case1 flags code =>
    obtain rfl := Option.some.inj single
    obtain ⟨agree, matters⟩ := char_of_readsAlike free alike
    exact ⟨_, rfl, agree, fun held => hasSiblings_eq same (matters held)⟩
  | case2 flags code =>
    obtain rfl := Option.some.inj single
    obtain ⟨agree, matters⟩ := of_check alike
    exact ⟨_, rfl, fun c found => congrArg (!·) (eq_of_beq (agree c found)),
      fun held => hasSiblings_eq same (eq_of_beq (matters held))⟩
  | case3 flags =>
    obtain rfl := Option.some.inj single
    have dotAll : other.dotAll = flags.dotAll := by rw [same]
    exact ⟨_, rfl, fun c _ => by rw [dotAll], fun _ => rfl⟩
  | case4 flags negated items =>
    obtain rfl := Option.some.inj single
    obtain ⟨agree, matters⟩ := of_check alike
    exact ⟨_, rfl, fun c found => eq_of_beq (agree c found), fun held => eq_of_beq (matters held)⟩
  | case5 flags first ih => exact ih same (Bool.and_eq_true_iff.1 alike).1 single
  | case6 flags change body ih => exact ih (same.apply change) alike single
  | case7 => exact absurd single (by simp)

/-- Where it has to be exactly in step, an expression asks the same of the text with and without
regard to case. -/
theorem likewise_lead (free : ∀ code ∈ spared, Unicode.hasCase code = false)
    (alike : expr.readsAlike text spared true flags other = true) {lead lead' : Lead}
    (likewise : lead.Likewise text lead') :
    ((expr.lead? flags).getD lead).Likewise text ((expr.lead? other).getD lead') := by
  induction expr generalizing flags other lead lead' with
  | empty => exact likewise
  | char code =>
    obtain ⟨-, matters⟩ := char_of_readsAlike free alike
    simp only [lead?, Option.getD_some, matters rfl]
    split
    · exact .undecided
    · exact .char code
  | set negated items =>
    obtain ⟨agree, matters⟩ := of_check alike
    simp only [lead?, Option.getD_some, eq_of_beq (matters rfl)]
    split
    · exact .undecided
    · exact .test fun c found => eq_of_beq (agree c found)
  | seq first second one two =>
    obtain ⟨here, there⟩ := Bool.and_eq_true_iff.1 alike
    rw [getD_lead?_seq, getD_lead?_seq]
    exact one here (two there likewise)
  | flagged change body ih => exact ih alike likewise
  | notChar _ | any | anchor _ | again _ => exact .undecided
  | alt _ _ _ _ | group _ _ _ | atomic _ _ | ahead _ _ _ | behind _ _ _ _ | loop _ _ _ _ _
  | ifGroup _ _ _ _ _ => exact .undecided

/-! ## Expressions -/

/-- An expression that says the same of the characters of a text with and without regard to case is
in step on this text. -/
theorem inStep_matcher (free : ∀ code ∈ spared, Unicode.hasCase code = false)
    (same : flags.SameButCase other)
    (alike : expr.readsAlike text spared exact flags other = true) (lead lead' : Lead) :
    (expr.matcher flags lead).InStep exact text lead lead' (expr.matcher other lead') := by
  induction expr generalizing exact flags other lead lead' with
  | empty => exact Matcher.inStep_id
  | char code => exact Matcher.inStep_one (char_of_readsAlike free alike).1
  | notChar code =>
    refine Matcher.inStep_one fun c found => ?_
    rw [eq_of_beq ((of_check alike).1 c found)]
  | any =>
    have dotAll : other.dotAll = flags.dotAll := by rw [same]
    refine Matcher.inStep_one fun c found => ?_
    rw [dotAll]
  | set negated items =>
    exact Matcher.inStep_one fun c found => eq_of_beq ((of_check alike).1 c found)
  | anchor place =>
    refine Matcher.inStep_test fun s t alike => ?_
    rw [alike.holds_eq, same]
    cases place <;> rfl
  | again index =>
    refine Matcher.inStep_again (fun c found d found' => ?_) index
    exact eq_of_beq (List.all_eq_true.1 (List.all_eq_true.1 alike c found) d found')
  | group index body ih => exact (ih same alike .undecided .undecided).group index
  | seq first second one two =>
    obtain ⟨here, there⟩ := Bool.and_eq_true_iff.1 alike
    -- What the first part is told may come from the second part, or from what follows both.
    refine (one same here _ _).seq fun next after told => ?_
    refine ⟨two same there lead lead' next after told, second.sound_lead flags lead told.sound,
      second.sound_lead other lead' told.sound', fun held => ?_⟩
    subst held
    exact likewise_lead free there (told.likewise rfl)
  | alt first second one two =>
    obtain ⟨here, there⟩ := Bool.and_eq_true_iff.1 alike
    have asks (expr : Expr) (flags : Flags) (next : Continuation) :
        ((expr.lead? flags).getD .undecided).Sound (expr.matcher flags .undecided next) :=
      expr.sound_lead flags .undecided (Lead.sound_undecided next)
    have asked (expr : Expr) (alike : expr.readsAlike text spared exact flags other = true)
        (held : exact = true) : ((expr.lead? flags).getD .undecided).Likewise text
          ((expr.lead? other).getD .undecided) := by
      subst held
      exact likewise_lead free alike .undecided
    have later := two same there .undecided .undecided
    refine ((one same here .undecided .undecided).offered (asks first flags) (asks first other)
      (asked first here)).alt ?_
    split
    · exact later.told
    · exact later.offered (asks second flags) (asks second other) (asked second there)
  | ifGroup index yes no one two =>
    obtain ⟨here, there⟩ := Bool.and_eq_true_iff.1 alike
    have first : (yes.matcher flags (if no == .empty then lead else .undecided)).InStep exact text
        lead lead' (yes.matcher other (if no == .empty then lead' else .undecided)) := by
      split
      · exact one same here lead lead'
      · exact (one same here .undecided .undecided).told
    exact first.ifGroup (two same there lead lead') index
  | flagged change body ih => exact ih (same.apply change) alike lead lead'
  | atomic body ih => exact (ih same alike .undecided .undecided).atomic
  | ahead negated body ih =>
    intro next after told s t abreast
    have start : some t.toPlace = some s.toPlace := congrArg some abreast.place
    show (Matcher.look negated (body.matcher flags .undecided) (some s.toPlace) next s).InStep exact
      text (Matcher.look negated (body.matcher other .undecided) (some t.toPlace) after t)
    rw [start]
    refine (ih same alike .undecided .undecided).look negated (fun place here => ?_) told.together
      abreast
    obtain rfl := Option.some.inj here
    exact abreast.inside
  | behind negated width body ih =>
    intro next after told s t abreast
    show (Matcher.look negated (body.matcher flags .undecided) (s.back? width.least) next s).InStep
      exact text
        (Matcher.look negated (body.matcher other .undecided) (t.back? width.least) after t)
    rw [abreast.place]
    refine (ih same alike .undecided .undecided).look negated (fun place back => ?_) told.together
      abreast
    exact (Place.text_of_back? back).trans abreast.inside
  | loop least most appetite body ih =>
    rw [readsAlike] at alike
    unfold Expr.matcher
    -- Whether the body is one character does not depend on the flags.
    cases single : body.single? flags with
    | some charTest =>
      rw [single, Option.isNone_some, Bool.and_false, Bool.or_false] at alike
      obtain ⟨charTest', found, likewise⟩ := single?_of_readsAlike free same alike single
      simp only [found]
      exact Matcher.inStep_chars likewise least most appetite
    | none =>
      rw [single, Option.isNone_none, Bool.and_true] at alike
      simp only [single?_eq_none single other]
      exact (ih same alike .undecided .undecided).loop least most _

end Expr

end RoutePattern.Regex
