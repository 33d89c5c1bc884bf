import Mathlib.Algebra.BigOperators.Ring.List
import RoutePattern.Proofs.Language.Repetition
import RoutePattern.Proofs.Matching.Comparison.Matcher

/-!
# The language of an expression

Expressions made of characters, rows, alternatives, groups and repetitions that may be given up
again are regular (`Expr.isRegular`): each of them matches the texts of its language
(`Expr.denotes`). The language of a row is the product of the languages of its parts, and that of
an alternation is the sum of those of its branches, although what all branches begin with is asked
for once, and branches of one character are made a set (`Expr.language_alternation`).
-/
namespace RoutePattern.Regex

namespace Expr

variable {flags : Flags}

/-- The texts that a regular expression takes. -/
def language (flags : Flags) : Expr → Language Char
  | empty => 1
  | char code => Matcher.letters fun c => sameCode flags code c.toNat
  | notChar code => Matcher.letters fun c => !sameCode flags code c.toNat
  | any => Matcher.letters fun c => flags.dotAll || c != '\n'
  | set negated items => Matcher.letters fun c => setHolds flags negated items c.toNat
  | seq first second => first.language flags * second.language flags
  | alt first second => first.language flags + second.language flags
  | group _ body => body.language flags
  | loop least most _ body => times (body.language flags) least most
  | _ => 0

/-- The expression is made of characters, rows, alternatives, groups and repetitions that may be
given up again. -/
def isRegular : Expr → Bool
  | empty | char _ | notChar _ | any | set .. => true
  | seq first second | alt first second => first.isRegular && second.isRegular
  | group _ body => body.isRegular
  | loop least most appetite body =>
    body.isRegular && appetite != .possessive && most.all (least ≤ ·)
  | _ => false

/-- A regular expression of one character takes the texts of such a character. -/
theorem language_of_single {expr : Expr} (regular : expr.isRegular = true) {charTest : CharTest}
    (single : expr.single? flags = some charTest) :
    expr.language flags = Matcher.letters charTest.accepts := by
  fun_induction Expr.single? flags expr with
  | case1 | case2 | case3 | case4 =>
    obtain rfl := Option.some.inj single
    rfl
  | case5 flags first ih =>
    rw [isRegular, Bool.and_eq_true] at regular
    rw [language, language, mul_one]
    exact ih regular.1 single
  | case6 => exact absurd regular Bool.false_ne_true
  | case7 => exact absurd single (by simp)

/-- A regular expression takes the texts of its language. -/
theorem denotes {expr : Expr} (regular : expr.isRegular = true) (flags : Flags) (lead : Lead) :
    (expr.matcher flags lead).Denotes lead (expr.language flags) := by
  induction expr generalizing lead with
  | empty => exact Matcher.denotes_id
  | char _ | notChar _ | any | set _ _ => exact Matcher.denotes_one _
  | seq first second one two =>
    rw [isRegular, Bool.and_eq_true] at regular
    exact (one regular.1 _).seq (two regular.2 lead) fun _ told => second.sound_lead flags lead told
  | alt first second one two =>
    rw [isRegular, Bool.and_eq_true] at regular
    -- A branch is tried only where its own lead can stand, which loses no text.
    have offers (expr : Expr)
        (denotes : (expr.matcher flags .undecided).Denotes .undecided (expr.language flags)) :
        (Matcher.offered ((expr.lead? flags).getD .undecided)
          (expr.matcher flags .undecided)).Denotes
          lead (expr.language flags) :=
      (denotes.offered fun _ told => expr.sound_lead flags .undecided told).told
    refine (offers first (one regular.1 _)).alt ?_
    split
    · exact (two regular.2 _).told
    · exact offers second (two regular.2 _)
  | group index body ih => exact (ih regular _).group index
  | loop least most appetite body ih =>
    simp only [isRegular, Bool.and_eq_true, bne_iff_ne] at regular
    obtain ⟨⟨inside, loose⟩, ordered⟩ := regular
    rw [matcher, language]
    split
    -- A body of one character is repeated by counting, any other one by trying.
    · next charTest single =>
      rw [language_of_single inside single]
      exact Matcher.denotes_chars charTest least most loose
    · exact (ih inside _).loop ordered loose _
  | anchor _ | flagged _ _ _ | atomic _ _ | ahead _ _ _ | behind _ _ _ _ | again _
  | ifGroup _ _ _ _ _ => exact absurd regular Bool.false_ne_true

/-! ## Rows -/

/-- A row takes the products of what its parts take. -/
theorem language_sequence (parts : List Expr) :
    (sequence parts).language flags = (parts.map (language flags)).prod := by
  induction parts with
  | nil => rfl
  | cons part parts ih =>
    rw [List.map_cons, List.prod_cons, ← ih]
    rfl

/-- One row after the other takes the product of what they take. -/
theorem language_sequence_append (one two : List Expr) :
    (sequence (one ++ two)).language flags =
      (sequence one).language flags * (sequence two).language flags := by
  simp only [language_sequence, List.map_append, List.prod_append]

/-- A row of one part takes what the part takes. -/
@[simp] theorem language_sequence_singleton (part : Expr) :
    (sequence [part]).language flags = part.language flags := by
  rw [language_sequence, List.map_singleton, List.prod_singleton]

/-- A row is regular if its parts are. -/
theorem isRegular_sequence {parts : List Expr} :
    (sequence parts).isRegular = true ↔ ∀ part ∈ parts, part.isRegular = true := by
  induction parts with
  | nil => simp [sequence, isRegular]
  | cons part parts ih =>
    rw [List.forall_mem_cons, ← ih]
    exact Bool.and_eq_true_iff

/-! ## Alternations -/

/-- What a row of branches takes. -/
def branchesLanguage (flags : Flags) (branches : List (List Expr)) : Language Char :=
  (branches.map fun branch => (sequence branch).language flags).sum

/-- A choice takes what its expressions take. -/
theorem language_choice (first : Expr) (others : List Expr) :
    (choice first others).language flags = ((first :: others).map (language flags)).sum := by
  induction others generalizing first with
  | nil => simp [choice]
  | cons second others ih =>
    rw [List.map_cons, List.sum_cons, ← ih second]
    rfl

/-- What branches begin with in common is the first factor of what they take. -/
theorem branchesLanguage_map_append (common : List Expr) (branches : List (List Expr)) :
    branchesLanguage flags (branches.map (common ++ ·)) =
      (sequence common).language flags * branchesLanguage flags branches := by
  rw [branchesLanguage, branchesLanguage, List.map_map, ← List.sum_map_mul_left]
  exact congrArg List.sum (List.map_congr_left fun branch _ =>
    language_sequence_append common branch)

/-- A branch of one character, as items of a set. -/
theorem language_of_branchItems? (regard : flags.ignoreCase = false) {branch : List Expr}
    {items : List SetItem} (found : branchItems? branch = some items) :
    (sequence branch).language flags =
      Matcher.letters fun c => items.any (·.holds flags c.toNat) := by
  unfold branchItems? at found
  split at found
  · obtain rfl := Option.some.inj found
    simp [language, sameCode, regard, SetItem.holds]
  · obtain rfl := Option.some.inj found
    simp [language, setHolds, regard]
  · exact absurd found (by simp)

/-- Characters of one class or of another one. -/
theorem letters_or (one two : Char → Bool) :
    (Matcher.letters fun c => one c || two c) = Matcher.letters one + Matcher.letters two := by
  ext text
  rw [Language.mem_add]
  constructor
  · rintro ⟨c, accepted, same⟩
    exact ((Bool.or_eq_true _ _).mp accepted).imp (⟨c, ·, same⟩) (⟨c, ·, same⟩)
  · rintro (⟨c, accepted, same⟩ | ⟨c, accepted, same⟩)
    · exact ⟨c, by simp [accepted], same⟩
    · exact ⟨c, by simp [accepted], same⟩

/-- No character of no class. -/
theorem letters_false : (Matcher.letters fun _ => false) = 0 := by
  ext text
  exact iff_of_false (fun ⟨_, wrong, _⟩ => Bool.false_ne_true wrong) (Language.notMem_zero text)

/-- Branches of one character each are one set. -/
theorem language_of_mapM_branchItems? (regard : flags.ignoreCase = false)
    {branches : List (List Expr)} {items : List (List SetItem)}
    (found : branches.mapM branchItems? = some items) :
    (set false items.flatten.eraseDups).language flags = branchesLanguage flags branches := by
  have merged : (set false items.flatten.eraseDups).language flags =
      Matcher.letters fun c => items.flatten.any (·.holds flags c.toNat) :=
    congrArg Matcher.letters (funext fun c => setHolds_merged regard items c.toNat)
  rw [merged]
  clear merged
  induction branches generalizing items with
  | nil =>
    obtain rfl := Option.some.inj found
    exact letters_false
  | cons branch branches ih =>
    rw [List.mapM_cons] at found
    obtain ⟨first, here, later⟩ := Option.bind_eq_some_iff.1 found
    obtain ⟨others, there, same⟩ := Option.bind_eq_some_iff.1 later
    obtain rfl := Option.some.inj same
    rw [branchesLanguage, List.map_cons, List.sum_cons, language_of_branchItems? regard here]
    rw [← branchesLanguage, ← ih there, ← letters_or]
    simp only [List.flatten_cons, List.any_append]

/-- An alternation takes what its branches take. -/
theorem language_alternation (regard : flags.ignoreCase = false) {branches : List (List Expr)}
    (some : branches ≠ []) :
    (sequence (alternation branches)).language flags = branchesLanguage flags branches := by
  fun_cases alternation branches with
  | case1 => exact absurd rfl some
  | case2 branch => simp [branchesLanguage]
  | case3 first others _ common rest factored items single =>
    have whole := @factor_append first others
    rw [factored] at whole
    rw [← whole, branchesLanguage_map_append, language_sequence_append,
      language_sequence_singleton, language_of_mapM_branchItems? regard single]
  | case4 first others _ common rest factored one more mapped _ =>
    have whole := @factor_append first others
    rw [factored] at whole
    rw [← whole, branchesLanguage_map_append, language_sequence_append,
      language_sequence_singleton, language_choice, ← mapped, List.map_map]
    rfl
  | case5 first others _ common rest factored mapped _ =>
    have whole := @factor_append first others
    rw [factored, List.map_eq_nil_iff.1 mapped] at whole
    exact absurd whole (by simp)

/-- A choice is regular if its expressions are. -/
theorem isRegular_choice {first : Expr} {others : List Expr}
    (regular : ∀ expr ∈ first :: others, expr.isRegular = true) :
    (choice first others).isRegular = true := by
  induction others generalizing first with
  | nil => exact regular first (List.mem_cons_self ..)
  | cons second others ih =>
    obtain ⟨here, later⟩ := List.forall_mem_cons.1 regular
    exact Bool.and_eq_true_iff.2 ⟨here, ih later⟩

/-- An alternation is regular if its branches are. -/
theorem isRegular_alternation {branches : List (List Expr)}
    (regular : ∀ branch ∈ branches, ∀ part ∈ branch, part.isRegular = true) :
    ∀ part ∈ alternation branches, part.isRegular = true := by
  have factored {first : List Expr} {others : List (List Expr)} {common : List Expr}
      {rest : List (List Expr)} (cut : factor first others = (common, rest))
      (regular : ∀ branch ∈ first :: others, ∀ part ∈ branch, part.isRegular = true) :
      ∀ branch ∈ rest, ∀ part ∈ common ++ branch, part.isRegular = true := by
    have whole := @factor_append first others
    rw [cut] at whole
    rw [← whole] at regular
    exact fun branch found => regular _ (List.mem_map_of_mem found)
  fun_cases alternation branches with
  | case1 => simp
  | case2 branch => simpa using regular
  | case3 first others _ common rest cut items single =>
    have rows := factored cut regular
    refine List.forall_mem_append.2 ⟨fun part shared => ?_, List.forall_mem_singleton.2 rfl⟩
    cases rest with
    | nil =>
      have whole := @factor_append first others
      rw [cut] at whole
      exact absurd whole (by simp)
    | cons left lefts =>
      exact rows left (List.mem_cons_self ..) part (List.mem_append_left _ shared)
  | case4 first others _ common rest cut one more mapped _ =>
    obtain ⟨left, lefts, rfl, rfl, rfl⟩ := List.map_eq_cons_iff.1 mapped
    have rows := factored cut regular
    refine List.forall_mem_append.2 ⟨fun part shared => ?_, List.forall_mem_singleton.2 ?_⟩
    · exact rows left (List.mem_cons_self ..) part (List.mem_append_left _ shared)
    · refine isRegular_choice fun expr member => ?_
      rw [← List.map_cons] at member
      obtain ⟨branch, here, rfl⟩ := List.mem_map.1 member
      exact isRegular_sequence.2 fun part inside =>
        rows branch here part (List.mem_append_right _ inside)
  | case5 first others _ common rest cut mapped _ =>
    have whole := @factor_append first others
    rw [cut, List.map_eq_nil_iff.1 mapped] at whole
    exact absurd whole (by simp)

end Expr

end RoutePattern.Regex
