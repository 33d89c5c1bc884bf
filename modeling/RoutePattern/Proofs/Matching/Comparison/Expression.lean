import RoutePattern.Proofs.Matching.Comparison.Matcher
import RoutePattern.Proofs.Matching.Comparison.Repetition
import RoutePattern.Proofs.Matching.Expression

/-!
# Comparing expressions

An expression may be tried under two sets of flags. If every character that it accepts under the
first flags is accepted under the second, and whatever is final in it means the same under both
(`Expr.Widens`), then it matches under the second flags wherever it matches under the first
(`Expr.below_matcher`). In particular an expression compares with itself (`Expr.widens_refl`): what
comes after it alone decides.
-/
namespace RoutePattern.Regex

/-- The text that two flags accept with an expression of one character is the same. -/
def Expr.SameFinal (flags more : Flags) (body : Expr) : Prop :=
  body.matcher more .undecided = body.matcher flags .undecided ∧
    ∀ charTest wider, body.single? flags = some charTest → body.single? more = some wider →
      wider.accepts = charTest.accepts

/-- Everything that an expression accepts under the first flags it accepts under the second, and
what is final in it means the same under both. -/
def Expr.Widens : Expr → (flags more : Flags) → Prop
  | .empty, _, _ => True
  | .char code, flags, more =>
    ∀ c : Char, sameCode flags code c.toNat = true → sameCode more code c.toNat = true
  | .notChar code, flags, more =>
    ∀ c : Char, (!sameCode flags code c.toNat) = true → (!sameCode more code c.toNat) = true
  | .any, flags, more =>
    ∀ c : Char, (flags.dotAll || c != '\n') = true → (more.dotAll || c != '\n') = true
  | .set negated items, flags, more =>
    ∀ c : Char, setHolds flags negated items c.toNat = true →
      setHolds more negated items c.toNat = true
  | .anchor place, flags, more =>
    ∀ state : State, state.holds flags place = true → state.holds more place = true
  | .seq first second, flags, more | .alt first second, flags, more
  | .ifGroup _ first second, flags, more => first.Widens flags more ∧ second.Widens flags more
  | .group _ body, flags, more => body.Widens flags more
  | .flagged change body, flags, more => body.Widens (flags.apply change) (more.apply change)
  | .atomic body, flags, more | .ahead _ body, flags, more | .behind _ _ body, flags, more =>
    body.SameFinal flags more
  | .loop _ _ appetite body, flags, more =>
    body.Widens flags more ∧ (appetite = .possessive → body.SameFinal flags more)
  | .again index, flags, more => Matcher.again more index = Matcher.again flags index

namespace Expr

/-- Under one set of flags an expression accepts what it accepts. -/
theorem widens_refl (expr : Expr) (flags : Flags) : expr.Widens flags flags := by
  have same (body : Expr) (flags : Flags) : body.SameFinal flags flags := by
    refine ⟨rfl, fun charTest wider found found' => ?_⟩
    rw [Option.some.inj (found'.symm.trans found)]
  induction expr generalizing flags with
  | empty => trivial
  | char _ | notChar _ | any | set _ _ | anchor _ => exact fun _ => id
  | seq _ _ one two => exact ⟨one flags, two flags⟩
  | alt _ _ one two => exact ⟨one flags, two flags⟩
  | ifGroup _ _ _ one two => exact ⟨one flags, two flags⟩
  | group _ _ ih => exact ih flags
  | flagged _ _ ih => exact ih _
  | atomic body _ => exact same body flags
  | ahead _ body _ => exact same body flags
  | behind _ _ body _ => exact same body flags
  | loop _ _ _ body ih => exact ⟨ih flags, fun _ => same body flags⟩
  | again _ => rfl

/-- An expression of one character is one under all flags, and accepts more under flags that accept
more. -/
theorem single?_of_widens {expr : Expr} {flags more : Flags} (widens : expr.Widens flags more)
    {charTest : CharTest} (single : expr.single? flags = some charTest) :
    ∃ wider, expr.single? more = some wider ∧
      ∀ c, charTest.accepts c = true → wider.accepts c = true := by
  fun_induction Expr.single? flags expr generalizing more charTest with
  | case1 | case2 | case3 | case4 =>
    obtain rfl := Option.some.inj single
    exact ⟨_, rfl, widens⟩
  | case5 flags first ih => exact ih widens.1 single
  | case6 flags change body ih => exact ih widens single
  | case7 => exact absurd single (by simp)

/-- Under flags that accept more an expression matches wherever it does under the others, and on the
way nothing leaves the text. -/
theorem below_matcher {expr : Expr} {flags more : Flags} (widens : expr.Widens flags more)
    (text : Text) (told lead : Lead) :
    (expr.matcher flags told).Below text lead (expr.matcher more lead) := by
  induction expr generalizing flags more told lead with
  | empty => exact Matcher.below_id
  | char code => exact Matcher.below_one widens
  | notChar code => exact Matcher.below_one widens
  | any => exact Matcher.below_one widens
  | set negated items => exact Matcher.below_one widens
  | anchor place =>
    refine Matcher.below_test fun s t alike holds => ?_
    exact widens t (alike.holds_eq flags place ▸ holds)
  | again index =>
    have same : Matcher.again more index = Matcher.again flags index := widens
    show (Matcher.again flags index).Below text lead (Matcher.again more index)
    rw [same]
    exact Matcher.below_again flags index
  | group index body ih => exact (ih widens .undecided .undecided).group index
  | seq first second one two =>
    exact (one widens.1 _ _).seq (two widens.2 told lead) fun after sound =>
      second.sound_lead more lead sound
  | alt first second one two =>
    have asks (expr : Expr) (after : Continuation) :
        ((expr.lead? more).getD .undecided).Sound (expr.matcher more .undecided after) :=
      expr.sound_lead more .undecided (Lead.sound_undecided after)
    refine (Matcher.Below.alt ((one widens.1 _ _).offered _ fun after _ => asks first after)
      ?_).told
    have later := two widens.2 .undecided .undecided
    split
    · exact later
    · exact later.offered _ fun after _ => asks second after
  | ifGroup index yes no one two =>
    have first : (yes.matcher flags (if no == .empty then told else .undecided)).Below text lead
        (yes.matcher more (if no == .empty then lead else .undecided)) := by
      split
      · exact one widens.1 told lead
      · exact (one widens.1 .undecided .undecided).told
    exact first.ifGroup (two widens.2 told lead) index
  | flagged change body ih => exact ih widens told lead
  -- What is final is not tried again, and a negated look fails where its body matches, so these
  -- bodies have to be the same under both flags.
  | atomic body ih =>
    have own := ih (widens_refl body flags) .undecided .undecided
    show (Matcher.atomic (body.matcher flags .undecided)).Below text lead
      (Matcher.atomic (body.matcher more .undecided))
    rw [widens.1]
    exact own.atomic
  | ahead negated body ih =>
    have own := ih (widens_refl body flags) .undecided .undecided
    intro ends next after follows _ s t alike
    show (Matcher.look negated (body.matcher flags .undecided) (some s.toPlace) next s).Below text
      ends (Matcher.look negated (body.matcher more .undecided) (some t.toPlace) after t)
    rw [widens.1, alike.place]
    refine own.look negated (fun place here => ?_) follows alike
    obtain rfl := Option.some.inj here
    exact alike.inside
  | behind negated width body ih =>
    have own := ih (widens_refl body flags) .undecided .undecided
    intro ends next after follows _ s t alike
    show (Matcher.look negated (body.matcher flags .undecided) (s.back? width.least) next s).Below
      text ends (Matcher.look negated (body.matcher more .undecided) (t.back? width.least) after t)
    rw [widens.1, alike.place]
    refine own.look negated (fun place back => ?_) follows alike
    exact (Place.text_of_back? back).trans alike.inside
  -- Both flags see one character in the body, or neither does.
  | loop least most appetite body ih =>
    have final (possessive : appetite = .possessive) := widens.2 possessive
    unfold Expr.matcher
    cases single : body.single? flags with
    | some charTest =>
      obtain ⟨wider, found, accepts⟩ := single?_of_widens widens.1 single
      simp only [found]
      exact Matcher.below_chars accepts
        (fun possessive => (final possessive).2 charTest wider single found) least most told
    | none =>
      simp only [single?_eq_none single more]
      exact (ih widens.1 .undecided .undecided).loop (fun possessive => (final possessive).1)
        least most _

end Expr

/-!
## Comparing rows of parts

A row of parts is matched by one matcher after the other, wherever it is cut
(`Expr.matcher_sequence_append`). So rows that begin alike compare as what follows their common
beginning does (`Expr.precedes_append`), and if what follows is known by the list of its ends, it
leads to a match wherever there is such an end (`Matcher.Lists.precedes`).
-/

/-- What a matcher matches first ends at one of its ends, and a matcher with an end wherever this
one has any matches, too. -/
theorem Matcher.Lists.precedes {text : Text} {one two : Matcher} {f g : Spot → List Spot}
    (own : one.Below text .undecided one) (first : one.Lists f) (second : two.Lists g)
    (kept : ∀ spot, f spot ≠ [] → g spot ≠ []) :
    Precedes text (fun ended => Inside text ended ∧ ∃ spot, ended.spot ∈ f spot)
      one.first two.first := by
  intro s t alike
  have final : Precedes text (Inside text) (fun ended => .matched ended.note)
      fun ended => .matched ended.note :=
    fun s t alike => ⟨⟨alike.inside, alike.inside⟩, t.note, rfl⟩
  have meets : (one.first s).Below text (Inside text) (one.first t) :=
    own (Inside text) _ _ final (Lead.sound_undecided _) s t alike
  have same : t.spot = s.spot := by rw [State.spot, State.spot, alike.place, alike.slots]
  have found := first.first s
  have other := second.first t
  cases attempt : one.first s with
  | failed noted =>
    rw [attempt] at meets
    exact meets
  | matched ended =>
    rw [attempt] at meets found
    have member : ended.spot ∈ f s.spot := List.mem_of_mem_head? found.symm
    refine ⟨⟨meets.1, s.spot, member⟩, ?_⟩
    rw [same] at other
    cases attempt' : two.first t with
    | failed noted =>
      rw [attempt'] at other
      exact absurd (List.head?_eq_none_iff.1 other.symm) (kept s.spot (List.ne_nil_of_mem member))
    | matched state => exact ⟨state, rfl⟩

namespace Expr

/-- What a row of parts asks of the text first is what its beginning asks or, if that asks for
nothing, what the rest asks. -/
theorem lead?_sequence_append (one two : List Expr) (flags : Flags) (lead : Lead) :
    ((sequence (one ++ two)).lead? flags).getD lead =
      ((sequence one).lead? flags).getD (((sequence two).lead? flags).getD lead) := by
  induction one with
  | nil => rfl
  | cons part one ih =>
    show (Option.getD (Expr.lead? flags (.seq part (sequence (one ++ two)))) lead) =
      Option.getD (Expr.lead? flags (.seq part (sequence one))) _
    rw [getD_lead?_seq, getD_lead?_seq, ih]

/-- A row of parts is matched by its beginning and then the rest. -/
theorem matcher_sequence_append (one two : List Expr) (flags : Flags) (lead : Lead) :
    (sequence (one ++ two)).matcher flags lead =
      ((sequence one).matcher flags (((sequence two).lead? flags).getD lead)).seq
        ((sequence two).matcher flags lead) := by
  induction one with
  | nil => rfl
  | cons part one ih =>
    show Expr.matcher (.seq part (sequence (one ++ two))) flags lead =
      Matcher.seq (Expr.matcher (.seq part (sequence one)) flags _) _
    rw [Expr.matcher, Expr.matcher, ih, lead?_sequence_append]
    rfl

/-- Rows that begin alike lead to a match wherever what follows their beginning does. -/
theorem precedes_append {text : Text} {ends : State → Prop} {flags : Flags} {next : Continuation}
    (common : List Expr) {one two : List Expr}
    (follows : Precedes text ends ((sequence one).matcher flags .undecided next)
      ((sequence two).matcher flags .undecided next)) :
    Precedes text ends ((sequence (common ++ one)).matcher flags .undecided next)
      ((sequence (common ++ two)).matcher flags .undecided next) := by
  rw [matcher_sequence_append, matcher_sequence_append]
  exact below_matcher (widens_refl _ flags) text _ _ ends _ _ follows
    ((sequence two).sound_lead flags .undecided (Lead.sound_undecided next))

end Expr

end RoutePattern.Regex
