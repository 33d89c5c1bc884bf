import Mathlib.Computability.Language
import RoutePattern.Proofs.Language.Matcher
import RoutePattern.Proofs.Matching.Repetition
import RoutePattern.Text.Basic

/-!
# The language of a repetition

A repetition that may be given up again takes the texts of its body as often as its bounds allow,
whether it prefers many or few of them (`Matcher.Denotes.loop`, `Matcher.denotes_chars`). It never
tries an empty repetition beyond the least count twice, nor more required ones than can move the
place; neither changes which texts are taken.
-/
namespace RoutePattern

/-!
## Powers of a language

The texts of a language any allowed number of times one after the other (`times`). Which of the
repetitions are empty does not matter: a text is made of some that are not, and the empty text has
to be in the language if more repetitions than these are asked for (`mem_times_iff`).
-/

/-- The texts of a language, repeated as often as the bounds allow. -/
def times (language : Language Char) (least : Nat) (most : Option Nat) : Language Char :=
  {text | ∃ count, least ≤ count ∧ most.all (count ≤ ·) = true ∧ text ∈ language ^ count}

/-- The texts of a language but the empty one. -/
def proper (language : Language Char) : Language Char := language - 1

variable {language : Language Char} {text : Text} {count : Nat}

/-- A text of a language is empty or proper. -/
theorem mem_proper : text ∈ proper language ↔ text ∈ language ∧ text ≠ [] := by
  rw [proper, Language.mem_sub, Language.mem_one]

/-- One more text in front. -/
theorem mem_pow_succ : text ∈ language ^ (count + 1) ↔
    ∃ one ∈ language, ∃ rest ∈ language ^ count, one ++ rest = text := by
  rw [pow_succ', Language.mem_mul]

/-- Proper texts are at least as long as they are many. -/
theorem le_length_of_mem_pow (found : text ∈ proper language ^ count) : count ≤ text.length := by
  induction count generalizing text with
  | zero => exact Nat.zero_le _
  | succ count ih =>
    obtain ⟨one, first, rest, later, rfl⟩ := mem_pow_succ.1 found
    have given := List.length_pos_of_ne_nil (mem_proper.1 first).2
    have more := ih later
    rw [List.length_append]
    omega

/-- The texts of a power are some proper ones, and empty ones to make up their count. -/
theorem mem_pow_iff : text ∈ language ^ count ↔
    ∃ several ≤ count, text ∈ proper language ^ several ∧ (several < count → [] ∈ language) := by
  induction count generalizing text with
  | zero =>
    constructor
    · exact fun found => ⟨0, Nat.le_refl 0, found, fun less => absurd less (Nat.lt_irrefl 0)⟩
    · rintro ⟨several, none, found, -⟩
      obtain rfl := Nat.le_zero.1 none
      exact found
  | succ count ih =>
    rw [mem_pow_succ]
    constructor
    · rintro ⟨one, first, rest, later, rfl⟩
      obtain ⟨several, few, found, empty⟩ := ih.1 later
      by_cases nothing : one = []
      · subst nothing
        exact ⟨several, Nat.le_succ_of_le few, found, fun _ => first⟩
      · refine ⟨several + 1, Nat.succ_le_succ few, mem_pow_succ.2 ?_, fun less => ?_⟩
        · exact ⟨one, mem_proper.2 ⟨first, nothing⟩, rest, found, rfl⟩
        · exact empty (Nat.lt_of_succ_lt_succ less)
    · rintro ⟨several, few, found, empty⟩
      rcases Nat.lt_or_ge several (count + 1) with less | all
      · have nothing := empty less
        have later := ih.2 ⟨several, Nat.le_of_lt_succ less, found, fun _ => nothing⟩
        exact ⟨[], nothing, text, later, rfl⟩
      · obtain rfl := Nat.le_antisymm few all
        obtain ⟨one, first, rest, later, rfl⟩ := mem_pow_succ.1 found
        exact ⟨one, (mem_proper.1 first).1, rest, ih.2 ⟨count, Nat.le_refl _, later,
          fun less => absurd less (Nat.lt_irrefl _)⟩, rfl⟩

/-- A repeated text is made of proper texts, as many as allowed, and the empty text is in the
language if this is not enough. -/
theorem mem_times_iff {least : Nat} {most : Option Nat} (ordered : most.all (least ≤ ·) = true) :
    text ∈ times language least most ↔
      ∃ several, text ∈ proper language ^ several ∧ most.all (several ≤ ·) = true ∧
        (several < least → [] ∈ language) := by
  constructor
  · rintro ⟨count, enough, few, found⟩
    obtain ⟨several, less, made, empty⟩ := mem_pow_iff.1 found
    refine ⟨several, made, ?_, fun short => empty (Nat.lt_of_lt_of_le short enough)⟩
    cases most with
    | none => rfl
    | some most => simp only [Option.all_some, decide_eq_true_eq] at few ⊢; omega
  · rintro ⟨several, made, few, empty⟩
    have found : text ∈ language ^ max several least :=
      mem_pow_iff.2 ⟨several, Nat.le_max_left .., made, fun short => empty (by omega)⟩
    refine ⟨_, Nat.le_max_right .., ?_, found⟩
    cases most with
    | none => rfl
    | some most => simp only [Option.all_some, decide_eq_true_eq] at ordered few ⊢; omega

/-- At most one repetition is none or a text of the language. -/
theorem times_zero_one : times language 0 (some 1) = 1 + language := by
  ext text
  rw [Language.mem_add]
  constructor
  · rintro ⟨count, -, few, found⟩
    rcases Nat.le_one_iff_eq_zero_or_eq_one.1 (of_decide_eq_true few) with rfl | rfl
    · exact .inl found
    · exact .inr (pow_one language ▸ found)
  · rintro (found | found)
    · exact ⟨0, Nat.le_refl 0, rfl, found⟩
    · exact ⟨1, Nat.zero_le 1, rfl, (pow_one language).symm ▸ found⟩

/-- Any number of repetitions is the star of a language. -/
theorem times_zero_none : times language 0 none = KStar.kstar language := by
  ext text
  rw [Language.kstar_eq_iSup_pow, Language.mem_iSup]
  constructor
  · rintro ⟨count, -, -, found⟩
    exact ⟨count, found⟩
  · rintro ⟨count, found⟩
    exact ⟨count, Nat.zero_le _, rfl, found⟩

end RoutePattern

namespace RoutePattern.Regex

/-! ## Repetitions of one character -/

/-- The texts of accepted characters are the powers of the texts of one. -/
theorem mem_letters_pow {accepts : Char → Bool} {count : Nat} {text : Text} :
    text ∈ Matcher.letters accepts ^ count ↔
      text.length = count ∧ ∀ c ∈ text, accepts c = true := by
  induction count generalizing text with
  | zero =>
    rw [pow_zero, Language.mem_one, List.length_eq_zero_iff]
    exact ⟨fun nothing => ⟨nothing, by simp [nothing]⟩, fun both => both.1⟩
  | succ count ih =>
    rw [mem_pow_succ]
    constructor
    · rintro ⟨_, ⟨c, accepted, rfl⟩, rest, later, rfl⟩
      obtain ⟨length, each⟩ := ih.1 later
      exact ⟨by simp [length], List.forall_mem_cons.2 ⟨accepted, each⟩⟩
    · rintro ⟨length, each⟩
      obtain ⟨c, rest, rfl⟩ := List.exists_cons_of_length_eq_add_one length
      obtain ⟨accepted, others⟩ := List.forall_mem_cons.1 each
      exact ⟨[c], ⟨c, accepted, rfl⟩, rest, ih.2 ⟨Nat.succ.inj length, others⟩, rfl⟩

namespace Matcher

variable {body : Matcher} {lead : Lead} {language : Language Char} {next : Continuation}
  {good : Place → Prop} {least : Nat} {most : Option Nat}

/-- Trying several places matches if one of them is good. -/
theorem accepts_fromPlaces (accepts : Accepts next good) (places : List Place) (s : State) :
    (fromPlaces places next s).IsMatch ↔ ∃ place ∈ places, good place := by
  induction places generalizing s with
  | nil => simp [fromPlaces]
  | cons place places ih =>
    rw [fromPlaces_cons, List.exists_mem_cons_iff,
      ← show _ ↔ good place from accepts (s.goTo place)]
    cases attempt : next (s.goTo place) with
    | matched ended => simp
    | failed noted => simpa using ih { s with noted := noted }

/-- The places after as many accepted characters as the bounds allow. -/
theorem before_times_letters {accepts : Char → Bool} {place : Place} :
    Before (times (letters accepts) least most) good place ↔
      ∃ ended ∈ (Place.run accepts most place.before place.after).drop least, good ended := by
  constructor
  · rintro ⟨taken, ⟨count, enough, few, found⟩, rest, cut, here⟩
    obtain ⟨rfl, each⟩ := mem_letters_pow.1 found
    exact ⟨_, Place.mem_run_drop_iff.2 ⟨taken, rest, cut, each, enough, few, rfl⟩, here⟩
  · rintro ⟨ended, found, here⟩
    obtain ⟨taken, rest, cut, each, enough, few, rfl⟩ := Place.mem_run_drop_iff.1 found
    exact ⟨taken, ⟨_, enough, few, mem_letters_pow.2 ⟨rfl, each⟩⟩, rest, cut, here⟩

/-- As many characters as possible. -/
theorem denotes_chars_greedy (charTest : CharTest) (least : Nat) (most : Option Nat) :
    (Matcher.chars charTest least most .greedy lead).Denotes lead
      (times (letters charTest.accepts) least most) := by
  intro next good accepts told s
  rw [before_times_letters]
  unfold Matcher.chars
  simp only
  split
  · next room =>
    refine iff_of_false (Attempt.not_isMatch_failed _) ?_
    rw [Place.run_drop_of_full (by simpa using room)]
    simp
  · rw [accepts_fromPlaces accepts]
    refine exists_congr fun ended => ?_
    rw [List.mem_filter, List.mem_reverse, and_assoc]
    refine and_congr_right fun _ => and_iff_right_of_imp fun here => ?_
    -- What comes after the characters asks of the text what it asks of every good place.
    cases lead with
    | char code =>
      obtain ⟨last, matched⟩ := (accepts (s.goTo ended)).2 here
      exact told _ last matched
    | test _ => rfl
    | undecided => rfl

/-- As few characters as possible. -/
theorem denotes_chars_lazy (charTest : CharTest) (least : Nat) (most : Option Nat) :
    (Matcher.chars charTest least most .lazy lead).Denotes lead
      (times (letters charTest.accepts) least most) := by
  intro next good accepts told s
  rw [before_times_letters]
  unfold Matcher.chars
  simp only
  split
  · next room =>
    refine iff_of_false (Attempt.not_isMatch_failed _) ?_
    rw [Place.run_drop_of_full (by simpa using room)]
    simp
  · split
    · next missing =>
      refine iff_of_false (Attempt.not_isMatch_failed _) ?_
      rw [Place.run_drop_of_missing missing]
      simp
    · rw [← accepts_fromPlaces accepts _ s]
      cases fromPlaces ((Place.run charTest.accepts most s.before s.after).drop least) next s <;>
        simp

/-- Repetitions of one character that may be given up again. -/
theorem denotes_chars (charTest : CharTest) (least : Nat) (most : Option Nat) {appetite : Appetite}
    (loose : appetite ≠ .possessive) :
    (Matcher.chars charTest least most appetite lead).Denotes lead
      (times (letters charTest.accepts) least most) := by
  cases appetite with
  | greedy => exact denotes_chars_greedy charTest least most
  | lazy => exact denotes_chars_lazy charTest least most
  | possessive => exact absurd rfl loose

/-! ## Repetitions of other expressions -/

/-- Some repetitions of a language, of which `count` have gone before, lead to a good place.
`latest` is the place where the latest repetition beyond the least count began. -/
def Repeats (language : Language Char) (least : Nat) (most : Option Nat) (good : Place → Prop) :
    (fuel count : Nat) → (latest : Option Nat) → Place → Prop
  | 0, _, _, _ => False
  | fuel + 1, count, latest, place =>
    if count < least then
      Before language (Repeats language least most good fuel (count + 1) latest) place
    else
      good place ∨ (most.all (count < ·) = true ∧ latest ≠ some place.position) ∧
        Before language
          (Repeats language least most good fuel (count + 1) (some place.position)) place

/-- One more repetition is allowed at a place. -/
theorem mayRepeat_iff {count : Nat} {latest : Option Nat} {s : State} :
    mayRepeat most count latest s = true ↔
      most.all (count < ·) = true ∧ latest ≠ some s.toPlace.position := by
  simp [mayRepeat]

section Loops

variable (denotes : body.Denotes .undecided language) (accepts : Accepts next good)
include denotes accepts

/-- As many repetitions as possible. -/
theorem accepts_greedy (fuel count : Nat) (latest : Option Nat) :
    Accepts (Matcher.greedy body least most fuel count latest next)
      (Repeats language least most good fuel count latest) := by
  induction fuel generalizing count latest with
  | zero => exact fun s => by simp [Matcher.greedy, Repeats]
  | succ fuel ih =>
    intro s
    have further (latest : Option Nat) :=
      denotes _ _ (ih (count + 1) latest) (Lead.sound_undecided _) s.note
    unfold Matcher.greedy Repeats
    split
    · rw [Attempt.isMatch_failAt]
      exact further latest
    -- Another repetition comes first here, and the rest is tried where it fails.
    · have stop : (next s.note).IsMatch ↔ good s.toPlace := accepts s.note
      rw [← mayRepeat_iff]
      by_cases more : mayRepeat most count latest s = true
      · have going := further (some s.position)
        rw [if_pos more]
        cases attempt :
          body (Matcher.greedy body least most fuel (count + 1) (some s.position) next)
            s.note with
        | matched ended => exact iff_of_true ⟨ended, rfl⟩ (.inr ⟨more, going.1 ⟨ended, attempt⟩⟩)
        | failed noted =>
          rw [attempt] at going
          simp only [Attempt.isMatch_failAt, stop]
          exact (or_iff_left fun both => Attempt.not_isMatch_failed noted (going.2 both.2)).symm
      · rw [if_neg more]
        simp only [Attempt.isMatch_failAt, stop]
        exact (or_iff_left fun both => more both.1).symm

/-- As few repetitions as possible. -/
theorem accepts_lazy (fuel count : Nat) (latest : Option Nat) :
    Accepts (Matcher.lazy body least most fuel count latest next)
      (Repeats language least most good fuel count latest) := by
  induction fuel generalizing count latest with
  | zero => exact fun s => by simp [Matcher.lazy, Repeats]
  | succ fuel ih =>
    intro s
    have further (latest : Option Nat) :=
      denotes _ _ (ih (count + 1) latest) (Lead.sound_undecided _) s.note
    unfold Matcher.lazy Repeats
    split
    · rw [Attempt.isMatch_failAt]
      exact further latest
    · have stop : (next s.note).IsMatch ↔ good s.toPlace := accepts s.note
      rw [← mayRepeat_iff]
      cases attempt : next s.note with
      | matched ended => exact iff_of_true ⟨ended, rfl⟩ (.inl (stop.1 ⟨ended, attempt⟩))
      | failed noted =>
        rw [attempt] at stop
        rw [or_iff_right fun here => Attempt.not_isMatch_failed noted (stop.2 here)]
        by_cases more : mayRepeat most count latest s = true
        · rw [if_pos more, Attempt.isMatch_failAt, and_iff_right more]
          exact further (some s.position)
        · simp [more]

end Loops

/-! ## Counting repetitions -/

variable {place : Place} {count : Nat} {latest : Option Nat}

/-- Repetitions that lead to a good place are as many as the bounds allow. -/
theorem before_of_repeats {fuel : Nat} (ordered : most.all (max count least ≤ ·) = true)
    (repeats : Repeats language least most good fuel count latest place) :
    ∃ more, least ≤ count + more ∧ most.all (count + more ≤ ·) = true ∧
      Before (language ^ more) good place := by
  induction fuel generalizing count latest place with
  | zero => exact absurd repeats id
  | succ fuel ih =>
    have further {latest : Option Nat} (allowed : most.all (max (count + 1) least ≤ ·) = true)
        (before : Before language (Repeats language least most good fuel (count + 1) latest)
          place) :
        ∃ more, least ≤ count + more ∧ most.all (count + more ≤ ·) = true ∧
          Before (language ^ more) good place := by
      obtain ⟨taken, found, rest, cut, later⟩ := before
      obtain ⟨more, enough, few, there⟩ := ih allowed later
      refine ⟨more + 1, by omega, by rwa [Nat.add_comm more, ← Nat.add_assoc], ?_⟩
      rw [pow_succ', before_mul]
      exact ⟨taken, found, rest, cut, there⟩
    unfold Repeats at repeats
    split at repeats
    · refine further ?_ repeats
      rwa [max_eq_right (by omega), ← max_eq_right (show count ≤ least by omega)]
    · rcases repeats with here | ⟨⟨allowed, -⟩, later⟩
      · refine ⟨0, by omega, ?_, by rwa [pow_zero, before_one]⟩
        rwa [Nat.add_zero, ← max_eq_left (show least ≤ count by omega)]
      · refine further ?_ later
        rw [max_eq_left (by omega)]
        exact allowed

/-- Repetitions that move the place, and empty ones to make up the least count, lead to a good
place. -/
theorem repeats_of_pow {fuel several : Nat} {taken rest : Text}
    (found : taken ∈ proper language ^ several) (cut : place.after = taken ++ rest)
    (here : good (place.advance taken rest)) (empty : count + several < least → [] ∈ language)
    (few : most.all (max (count + several) least ≤ ·) = true)
    (earlier : ∀ start ∈ latest, start < place.position)
    (fuelled : (least - count) + several < fuel) :
    Repeats language least most good fuel count latest place := by
  induction fuel generalizing count latest place several taken with
  | zero => exact absurd fuelled (Nat.not_lt_zero _)
  | succ fuel ih =>
    -- One more repetition takes a proper text, and moves the place.
    have further {several : Nat} {one others : Text} (first : one ∈ proper language)
        (later : others ∈ proper language ^ several) (same : one ++ others = taken)
        (empty : count + (several + 1) < least → [] ∈ language)
        (few : most.all (max (count + (several + 1)) least ≤ ·) = true)
        (fuelled : (least - (count + 1)) + several < fuel) (latest : Option Nat)
        (earlier : ∀ start ∈ latest, start ≤ place.position) :
        Before language (Repeats language least most good fuel (count + 1) latest) place := by
      obtain ⟨member, moves⟩ := mem_proper.1 first
      subst same
      rw [List.append_assoc] at cut
      refine ⟨one, member, others ++ rest, cut, ih later rfl ?_ ?_ ?_ ?_ fuelled⟩
      · rwa [Place.advance_advance]
      · rwa [Nat.add_assoc, Nat.add_comm 1]
      · rwa [Nat.add_assoc, Nat.add_comm 1]
      · intro start known
        have longer := List.length_pos_of_ne_nil moves
        have before := earlier start known
        simp only [Place.position, Place.advance, List.length_append,
          List.length_reverse] at before ⊢
        omega
    unfold Repeats
    split
    · next required =>
      cases several with
      | zero =>
        obtain rfl := (Language.mem_one taken).1 found
        refine ⟨[], empty required, place.after, rfl, ih found cut ?_ ?_ ?_ earlier ?_⟩
        · exact here
        · exact fun less => empty (by omega)
        · rwa [max_eq_right (by omega), ← max_eq_right (show count + 0 ≤ least by omega)]
        · omega
      | succ several =>
        obtain ⟨one, first, others, later, same⟩ := mem_pow_succ.1 found
        exact further first later same empty few (by omega) latest fun start known =>
          Nat.le_of_lt (earlier start known)
    · next optional =>
      cases several with
      | zero =>
        obtain rfl := (Language.mem_one taken).1 found
        rw [List.nil_append] at cut
        subst cut
        exact .inl here
      | succ several =>
        obtain ⟨one, first, others, later, same⟩ := mem_pow_succ.1 found
        refine .inr ⟨⟨?_, fun same => ?_⟩, further first later same empty few (by omega) _ ?_⟩
        · cases most with
          | none => rfl
          | some most =>
            simp only [Option.all_some, decide_eq_true_eq] at few ⊢
            omega
        · exact absurd (earlier _ same) (Nat.lt_irrefl _)
        · intro start known
          exact Nat.le_of_eq (Option.some.inj known).symm

/-- With enough fuel repetitions lead to a good place where a text of the repeated language does. -/
theorem repeats_iff {fuel : Nat} (ordered : most.all (least ≤ ·) = true)
    (fuelled : least + place.after.length < fuel) :
    Repeats language least most good fuel 0 none place ↔
      Before (times language least most) good place := by
  constructor
  · intro repeats
    obtain ⟨count, enough, few, taken, found, later⟩ :=
      before_of_repeats (by rwa [Nat.zero_max]) repeats
    rw [Nat.zero_add] at enough few
    exact ⟨taken, ⟨count, enough, few, found⟩, later⟩
  · rintro ⟨taken, found, rest, cut, here⟩
    obtain ⟨several, made, few, empty⟩ := (mem_times_iff ordered).1 found
    have short := le_length_of_mem_pow made
    rw [cut, List.length_append] at fuelled
    refine repeats_of_pow made cut here (by rwa [Nat.zero_add]) ?_ (by simp) (by omega)
    cases most with
    | none => rfl
    | some most =>
      simp only [Option.all_some, decide_eq_true_eq] at ordered few ⊢
      omega

/-- A greatest count that is lowered along with the least one stays at least as great. -/
theorem all_map_sub {fewest : Nat} (ordered : most.all (least ≤ ·) = true) (fewer : fewest ≤ least) :
    (most.map (· - (least - fewest))).all (fewest ≤ ·) = true := by
  cases most with
  | none => rfl
  | some most =>
    simp only [Option.all_some, Option.map_some, decide_eq_true_eq] at ordered ⊢
    omega

/-- More required repetitions than there are characters make no difference. -/
theorem before_times_required (groups : Option Nat) (ordered : most.all (least ≤ ·) = true) :
    Before (times language (required least groups place)
        (most.map (· - (least - required least groups place)))) good place ↔
      Before (times language least most) good place := by
  -- A proper repetition takes a character, so more than the characters left are never needed.
  have fewer : required least groups place = least ∨
      required least groups place < least ∧ place.after.length < required least groups place := by
    cases groups with
    | none => exact .inl rfl
    | some groups =>
      have room : place.after.length + 1 ≤ (place.after.length + 1) * (groups + 1) :=
        Nat.le_mul_of_pos_right _ (Nat.succ_pos _)
      simp only [required]
      omega
  generalize required least groups place = fewest at fewer
  have ordered' := all_map_sub ordered (show fewest ≤ least by omega)
  have same (taken rest : Text) (cut : place.after = taken ++ rest) :
      taken ∈ times language fewest (most.map (· - (least - fewest))) ↔
        taken ∈ times language least most := by
    rw [mem_times_iff ordered', mem_times_iff ordered]
    refine exists_congr fun several => and_congr_right fun made => ?_
    have short := le_length_of_mem_pow made
    rw [cut, List.length_append] at fewer
    refine and_congr ?_ (imp_congr_left (by omega))
    cases most with
    | none => rfl
    | some most =>
      simp only [Option.all_some, Option.map_some, decide_eq_true_eq] at ordered ⊢
      omega
  constructor
  · rintro ⟨taken, found, rest, cut, here⟩
    exact ⟨taken, (same taken rest cut).1 found, rest, cut, here⟩
  · rintro ⟨taken, found, rest, cut, here⟩
    exact ⟨taken, (same taken rest cut).2 found, rest, cut, here⟩

/-- Repetitions that may be given up again. -/
theorem Denotes.loop (denotes : body.Denotes .undecided language)
    (ordered : most.all (least ≤ ·) = true) {appetite : Appetite} (loose : appetite ≠ .possessive)
    (groups : Option Nat) :
    (Matcher.loop least most appetite groups body).Denotes lead (times language least most) := by
  intro next good accepts _ s
  rw [← before_times_required groups ordered]
  have fewest : required least groups s.toPlace ≤ least := by
    cases groups with
    | none => exact Nat.le_refl least
    | some groups => exact Nat.min_le_left ..
  have fuelled : required least groups s.toPlace + s.after.length <
      required least groups s.toPlace + s.position + s.after.length + 2 := by omega
  rw [← repeats_iff (all_map_sub ordered fewest) fuelled]
  unfold Matcher.loop
  cases appetite with
  | greedy => exact accepts_greedy denotes accepts _ 0 none s
  | lazy => exact accepts_lazy denotes accepts _ 0 none s
  | possessive => exact absurd rfl loose

end Matcher

end RoutePattern.Regex
