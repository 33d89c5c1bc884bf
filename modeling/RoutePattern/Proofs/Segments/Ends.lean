import RoutePattern.Proofs.Matching.Expression
import RoutePattern.Proofs.Segments.Program

/-!
# The ends of segments

Where all that follows starts at a segment, a parameter can only end between segments: of the many
places inside a segment where its regular expression may end, none leads anywhere. So an item of a
pattern chooses among blocks of whole segments (`SegmentItem.blocks`).
-/
namespace RoutePattern

open Regex Regex.Matcher

/-- Segments, each after a slash. -/
def slashed (segments : List Text) : Text := segments.flatMap ('/' :: ·)

/-- A segment holds neither a slash nor a line end. -/
def IsSegment (segment : Text) : Prop := '/' ∉ segment ∧ '\n' ∉ segment

/-- A way of going on leads nowhere from inside a segment. -/
def Bounded {α : Type} (go : Spot → Option α) : Prop :=
  ∀ spot, ∀ c ∈ spot.after.head?, c ≠ '/' → c ≠ '\n' → go spot = none

@[simp] theorem slashed_nil : slashed [] = [] := rfl

@[simp] theorem slashed_cons (segment : Text) (segments : List Text) :
    slashed (segment :: segments) = '/' :: (segment ++ slashed segments) := rfl

@[simp] theorem slashed_append (one two : List Text) :
    slashed (one ++ two) = slashed one ++ slashed two := List.flatMap_append

/-- Segments start with a slash, unless there is none. -/
theorem atSegment_slashed (segments : List Text) : AtSegment (slashed segments) := by
  cases segments with
  | nil => exact .inl rfl
  | cons segment segments => exact .inr ⟨_, rfl⟩

/-! ## One segment -/

namespace ParameterKind

variable (options : Options)

/-- A character may stand in a segment of a parameter. -/
def accepts (kind : ParameterKind) (c : Char) : Bool :=
  if kind.isInteger then setHolds options.flags false [.category .digit false] c.toNat
  else !sameCode options.flags '/'.toNat c.toNat

/-- A segment can be taken by a parameter. -/
def takes (kind : ParameterKind) (segment : Text) : Bool :=
  !segment.isEmpty && segment.all (kind.accepts options)

/-- The ends of one segment of a parameter: digits reach as far as possible, and anything else ends
as soon as possible. -/
def ends (kind : ParameterKind) (spot : Spot) : List Spot :=
  let places := (Place.run (kind.accepts options) none spot.before spot.after).drop 1
  (if kind.isInteger then places.reverse else places).map spot.goTo

variable {options}

/-- No segment of a parameter holds a slash. -/
theorem accepts_slash (kind : ParameterKind) : kind.accepts options '/' = false := by
  have slash : sameCode options.flags '/'.toNat '/'.toNat = true :=
    sameCode_slash_left options.flags _
  unfold accepts
  cases kind.isInteger with
  | false => simp only [Bool.false_eq_true, if_false, slash, Bool.not_true]
  | true =>
    unfold Options.flags
    cases options.sensitive <;> decide

/-- A parameter that is no integer takes every segment that is not empty. -/
theorem takes_iff {kind : ParameterKind} (text : kind.isInteger = false)
    {segment : Text} (slashless : '/' ∉ segment) :
    kind.takes options segment = true ↔ segment ≠ [] := by
  have accepted : segment.all (kind.accepts options) = true := by
    rw [List.all_eq_true]
    intro c found
    have apart : sameCode options.flags '/'.toNat c.toNat = false := by
      rw [sameCode_slash_left options.flags, beq_eq_false_iff_ne]
      intro same
      obtain rfl : c = '/' := Char.toNat_inj.1 same
      exact slashless found
    rw [accepts, text, if_neg Bool.false_ne_true, apart]
    rfl
  rw [takes, accepted]
  simp

/-- A segment of a parameter ends after a row of characters that it accepts. -/
theorem mem_ends_iff {kind : ParameterKind} {spot ended : Spot} :
    ended ∈ kind.ends options spot ↔ ∃ taken rest, taken ≠ [] ∧ spot.after = taken ++ rest ∧
      (∀ c ∈ taken, kind.accepts options c = true) ∧ ended = spot.advance taken rest := by
  have order : ended ∈ kind.ends options spot ↔ ∃ place ∈
      (Place.run (kind.accepts options) none spot.before spot.after).drop 1,
        spot.goTo place = ended := by
    unfold ends
    cases kind.isInteger with
    | false => exact List.mem_map
    | true => simp only [if_true, List.mem_map, List.mem_reverse]
  rw [order]
  constructor
  · rintro ⟨place, found, rfl⟩
    obtain ⟨taken, rest, given, cut, accepted, rfl⟩ := Place.mem_drop_run_iff.1 found
    exact ⟨taken, rest, given, cut, accepted, rfl⟩
  · rintro ⟨taken, rest, given, cut, accepted, rfl⟩
    exact ⟨_, Place.mem_drop_run_iff.2 ⟨taken, rest, given, cut, accepted, rfl⟩, rfl⟩

/-- What goes on after a segment of a parameter goes on after the whole segment. -/
theorem findSome?_ends {α : Type} {go : Spot → Option α} (options : Options)
    (bounded : Bounded go) (kind : ParameterKind) {spot : Spot} {segment rest : Text} (cut : spot.after = segment ++ rest)
    (whole : IsSegment segment) (here : AtSegment rest) :
    (kind.ends options spot).findSome? go =
      if kind.takes options segment then go (spot.advance segment rest) else none := by
  -- A row of accepted characters holds no slash, so it does not reach beyond the segment.
  have inside : ∀ taken later, segment ++ rest = taken ++ later →
      (∀ c ∈ taken, kind.accepts options c = true) → ∃ left, segment = taken ++ left ∧
        later = left ++ rest := by
    intro taken later same accepted
    rcases List.append_eq_append_iff.1 same with ⟨more, longer, rest'⟩ | ⟨left, shorter, later'⟩
    · cases more with
      | nil => exact ⟨[], by simpa using longer.symm, by simpa using rest'.symm⟩
      | cons c more =>
        obtain rfl : c = '/' := here.head c (by simp [rest'])
        have slash := accepted '/' (by simp [longer])
        rw [accepts_slash] at slash
        exact absurd slash (by decide)
    · exact ⟨left, shorter, later'⟩
  have others : ∀ ended ∈ kind.ends options spot, ended ≠ spot.advance segment rest →
      go ended = none := by
    intro ended found different
    obtain ⟨taken, later, given, same, accepted, rfl⟩ := mem_ends_iff.1 found
    obtain ⟨left, rfl, rfl⟩ := inside taken later (cut.symm.trans same) accepted
    cases left with
    | nil => exact absurd (by simp) different
    | cons c left =>
      refine bounded _ c (by simp) ?_ ?_
      · rintro rfl
        exact whole.1 (by simp)
      · rintro rfl
        exact whole.2 (by simp)
  by_cases taken : kind.takes options segment = true
  · have found : spot.advance segment rest ∈ kind.ends options spot := by
      simp only [takes, Bool.and_eq_true, Bool.not_eq_true', List.isEmpty_eq_false_iff,
        List.all_eq_true] at taken
      exact mem_ends_iff.2 ⟨segment, rest, taken.1, cut, taken.2, rfl⟩
    rw [if_pos taken]
    exact findSome?_eq_of_mem found others
  · rw [if_neg taken, List.findSome?_eq_none_iff]
    intro ended found
    refine others ended found ?_
    rintro rfl
    obtain ⟨row, later, given, same, accepted, equal⟩ := mem_ends_iff.1 found
    obtain rfl : rest = later := congrArg (·.after) equal
    obtain rfl : segment = row := List.append_cancel_right (cut.symm.trans same)
    refine taken ?_
    simp only [takes, Bool.and_eq_true, Bool.not_eq_true', List.isEmpty_eq_false_iff,
      List.all_eq_true]
    exact ⟨given, accepted⟩

/-- The place moves over a segment of a parameter. -/
theorem advances_slash_ends (options : Options) (kind : ParameterKind) :
    Advances (chain [charEnds options.flags '/'.toNat, kind.ends options]) := by
  intro spot ended found
  rw [chain, chain_singleton, List.mem_flatMap] at found
  obtain ⟨middle, first, second⟩ := found
  obtain ⟨taken, rest, given, cut, -, rfl⟩ := mem_ends_iff.1 second
  have moved : middle.position = spot.position + 1 ∧
      spot.after.length = middle.after.length + 1 := by
    unfold charEnds at first
    split at first
    · simp at first
    · next c later same =>
      split at first
      · obtain rfl : middle = spot.advance [c] later := by simpa using first
        simp [same]
      · simp at first
  have more := congrArg List.length cut
  have some : 0 < taken.length := List.length_pos_of_ne_nil given
  simp only [List.length_append] at more
  rw [Spot.position_advance, Spot.after_advance]
  omega

end ParameterKind

/-! ## Slashes and literals -/

section Literals

variable {options : Options}

/-- A literal looks at the next character. -/
theorem charEnds_cons {flags : Flags} {code : Nat} {spot : Spot} {c : Char} {rest : Text}
    (cut : spot.after = c :: rest) :
    charEnds flags code spot =
      if sameCode flags code c.toNat then [spot.advance [c] rest] else [] := by
  simp only [charEnds, cut]

/-- A slash takes the slash in front of a segment. -/
theorem charEnds_slash {spot : Spot} {rest : Text} (cut : spot.after = '/' :: rest) :
    charEnds options.flags '/'.toNat spot = [spot.advance ['/'] rest] := by
  have same : sameCode options.flags '/'.toNat '/'.toNat = true :=
    sameCode_slash_left options.flags _
  rw [charEnds_cons cut, if_pos same]

/-- What stands after the slash in front of a segment is tried behind it. -/
theorem findSome?_slash {α : Type} {go : Spot → Option α} (later : List (Spot → List Spot))
    {spot : Spot} {rest : Text} (cut : spot.after = '/' :: rest) :
    (chain (charEnds options.flags '/'.toNat :: later) spot).findSome? go =
      (chain later (spot.advance ['/'] rest)).findSome? go := by
  rw [findSome?_chain_cons, charEnds_slash cut, List.findSome?_singleton]

/-- A slash takes nothing else. -/
theorem charEnds_slash_none {spot : Spot} (other : ∀ c ∈ spot.after.head?, c ≠ '/') :
    charEnds options.flags '/'.toNat spot = [] := by
  unfold charEnds
  split
  · rfl
  · next c rest cut =>
    have different : c ≠ '/' := other c (by simp [cut])
    have apart : sameCode options.flags '/'.toNat c.toNat = false := by
      rw [sameCode_slash_left options.flags, beq_eq_false_iff_ne]
      exact fun same => different (Char.toNat_inj.1 same)
    rw [apart]
    rfl

variable (options) in
/-- Two texts are the same up to what the options say about case. -/
def sameText : Text → Text → Bool
  | [], [] => true
  | c :: text, d :: segment => sameCode options.flags c.toNat d.toNat && sameText text segment
  | _, _ => false

/-- Where no slash stands, nothing that starts with one leads anywhere. -/
theorem findSome?_slash_none {α : Type} {go : Spot → Option α} (later : List (Spot → List Spot))
    {spot : Spot} (other : ∀ c ∈ spot.after.head?, c ≠ '/') :
    (chain (charEnds options.flags '/'.toNat :: later) spot).findSome? go = none := by
  rw [findSome?_chain_cons, charEnds_slash_none other, List.findSome?_nil]

/-- What goes on after a literal goes on after the whole segment that is the same text. -/
theorem findSome?_literal {α : Type} {go : Spot → Option α} (bounded : Bounded go) {text : Text}
    (plain : '/' ∉ text) {spot : Spot} {segment rest : Text} (cut : spot.after = segment ++ rest)
    (whole : IsSegment segment) (here : AtSegment rest) :
    (chain (text.map fun c => charEnds options.flags c.toNat) spot).findSome? go =
      if sameText options text segment then go (spot.advance segment rest) else none := by
  -- The text and the segment go along together, and neither may end before the other.
  induction text generalizing spot segment with
  | nil =>
    rw [List.map_nil, chain, List.findSome?_singleton]
    cases segment with
    | nil =>
      obtain rfl : spot.after = rest := by simpa using cut
      rfl
    | cons d segment =>
      refine bounded spot d (by simp [cut]) ?_ ?_
      · rintro rfl
        exact whole.1 (by simp)
      · rintro rfl
        exact whole.2 (by simp)
  | cons c text ih =>
    have slashless : '/' ∉ text := fun found => plain (List.mem_cons_of_mem _ found)
    rw [List.map_cons, chain, findSome?_flatMap]
    cases segment with
    | nil =>
      have nowhere : charEnds options.flags c.toNat spot = [] := by
        unfold charEnds
        split
        · rfl
        · next d later same =>
          obtain rfl : d = '/' := here.head d (by rw [← List.nil_append rest, ← cut, same]; rfl)
          have apart : sameCode options.flags c.toNat '/'.toNat = false := by
            rw [sameCode_slash_right options.flags,
              beq_eq_false_iff_ne]
            intro same
            obtain rfl : c = '/' := Char.toNat_inj.1 same
            exact plain (by simp)
          rw [apart]
          rfl
      rw [nowhere]
      rfl
    | cons d segment =>
      have inner : IsSegment segment :=
        ⟨fun found => whole.1 (List.mem_cons_of_mem _ found),
          fun found => whole.2 (List.mem_cons_of_mem _ found)⟩
      rw [charEnds_cons (show spot.after = d :: (segment ++ rest) from cut), sameText]
      by_cases agree : sameCode options.flags c.toNat d.toNat = true
      · rw [if_pos agree, agree, Bool.true_and, List.findSome?_singleton,
          ih slashless rfl inner, Spot.advance_advance]
        rfl
      · rw [if_neg agree, eq_false_of_ne_true agree, Bool.false_and]
        rfl

end Literals

/-! ## Parameters -/

namespace ParameterKind

variable {options : Options} {α : Type} {go : Spot → Option α}

variable (options) in
/-- The blocks of further segments that a parameter can take, the longest first. -/
def repeats (kind : ParameterKind) : List Text → List (List Text)
  | [] => [[]]
  | segment :: segments =>
    if kind.takes options segment then (kind.repeats segments).map (segment :: ·) ++ [[]] else [[]]

variable (options) in
/-- The blocks of at least one segment that a parameter can take, in the order of its
preferences. -/
def several (kind : ParameterKind) : List Text → List (List Text)
  | [] => []
  | segment :: segments =>
    if kind.takes options segment then
      if kind.modifier.mayRepeat then (kind.repeats options segments).map (segment :: ·)
      else [[segment]]
    else []

variable (options) in
/-- The ends of one more segment after a slash, any number of times. -/
def moreEnds (kind : ParameterKind) : Spot → List Spot :=
  starEnds (chain [charEnds options.flags '/'.toNat, kind.ends options])

variable (options) in
/-- The ends of what the group of a parameter holds. -/
def capturedEnds (kind : ParameterKind) : List (Spot → List Spot) :=
  if kind.modifier.mayRepeat then [kind.ends options, kind.moreEnds options]
  else [kind.ends options]

variable (options) in
/-- The ends of a parameter whose group has a number, without what makes it optional. -/
def takenEnds (kind : ParameterKind) (index : Nat) : List (Spot → List Spot) :=
  [charEnds options.flags '/'.toNat, groupEnds index (chain (kind.capturedEnds options))]

/-- More segments are tried one by one, and going on at once comes last. -/
theorem findSome?_moreEnds_eq (kind : ParameterKind) (spot : Spot) :
    (kind.moreEnds options spot).findSome? go =
      ((chain [charEnds options.flags '/'.toNat, kind.ends options] spot).findSome? fun ended =>
        (kind.moreEnds options ended).findSome? go).or (go spot) := by
  rw [moreEnds, starEnds_eq (kind.advances_slash_ends options), List.findSome?_append,
    findSome?_flatMap, List.findSome?_singleton]

/-- What goes on after more segments leads nowhere from inside a segment if going on at once does
not. -/
theorem bounded_moreEnds (options : Options) (bounded : Bounded go) (kind : ParameterKind) :
    Bounded fun spot => (kind.moreEnds options spot).findSome? go := by
  intro spot c found slash lineEnd
  have other : ∀ d ∈ spot.after.head?, d ≠ '/' := by
    intro d same
    obtain rfl : c = d := Option.mem_unique found same
    exact slash
  show (kind.moreEnds options spot).findSome? go = none
  rw [findSome?_moreEnds_eq, findSome?_slash_none _ other, Option.none_or]
  exact bounded spot c found slash lineEnd

/-- More segments are taken as a block of whole segments. -/
theorem findSome?_moreEnds (bounded : Bounded go) (kind : ParameterKind) {spot : Spot}
    {segments : List Text} (cut : spot.after = slashed segments)
    (whole : ∀ segment ∈ segments, IsSegment segment) :
    (kind.moreEnds options spot).findSome? go = (kind.repeats options segments).findSome?
      fun block => go (spot.advance (slashed block) (slashed (segments.drop block.length))) := by
  have again := bounded_moreEnds options bounded kind
  induction segments generalizing spot with
  | nil =>
    have stay : spot.advance [] [] = spot := by
      have same := Spot.advance_nil spot
      rwa [cut] at same
    rw [findSome?_moreEnds_eq, findSome?_slash_none _ (by simp [cut]), Option.none_or, repeats,
      List.findSome?_singleton]
    exact congrArg go stay.symm
  | cons segment segments ih =>
    have inner : ∀ segment ∈ segments, IsSegment segment :=
      fun other found => whole other (List.mem_cons_of_mem _ found)
    have stay : spot.advance [] (slashed (segment :: segments)) = spot := by
      rw [← cut]
      exact Spot.advance_nil spot
    have faced : spot.after = '/' :: (segment ++ slashed segments) := cut
    have one := findSome?_ends options again kind
      (show (spot.advance ['/'] (segment ++ slashed segments)).after = segment ++ slashed segments
        from rfl)
      (whole segment (List.mem_cons_self ..)) (atSegment_slashed segments)
    -- One more segment and what follows it, and then none.
    rw [findSome?_moreEnds_eq, findSome?_slash _ faced, chain_singleton, one, repeats]
    by_cases taken : kind.takes options segment = true
    · rw [if_pos taken, if_pos taken, ih rfl inner, List.findSome?_append, List.findSome?_map,
        List.findSome?_singleton]
      congr 1
      · congr 1
        funext block
        simp only [Spot.advance_advance, Function.comp, slashed_cons, List.length_cons,
          List.drop_succ_cons, List.nil_append, List.cons_append]
      · exact congrArg go stay.symm
    · rw [if_neg taken, if_neg taken, Option.none_or, List.findSome?_singleton]
      exact congrArg go stay.symm

/-- What the group of a parameter holds is taken as a block of whole segments. -/
theorem findSome?_captured (options : Options) (bounded : Bounded go) (kind : ParameterKind) {spot : Spot}
    {segment : Text} {segments : List Text} (cut : spot.after = segment ++ slashed segments)
    (whole : ∀ other ∈ segment :: segments, IsSegment other) :
    (chain (kind.capturedEnds options) spot).findSome? go =
      (kind.several options (segment :: segments)).findSome? fun block =>
        go (spot.advance ((slashed block).drop 1)
          (slashed ((segment :: segments).drop block.length))) := by
  have first := whole segment (List.mem_cons_self ..)
  have inner : ∀ other ∈ segments, IsSegment other :=
    fun other found => whole other (List.mem_cons_of_mem _ found)
  have here := atSegment_slashed segments
  rw [capturedEnds, several]
  by_cases repeated : kind.modifier.mayRepeat = true
  · have again := bounded_moreEnds options bounded kind
    rw [if_pos repeated, if_pos repeated, findSome?_chain_cons, chain_singleton,
      findSome?_ends options again kind cut first here]
    by_cases taken : kind.takes options segment = true
    · rw [if_pos taken, if_pos taken, findSome?_moreEnds bounded kind rfl inner, List.findSome?_map]
      congr 1
      funext block
      simp
    · rw [if_neg taken, if_neg taken, List.findSome?_nil]
  · rw [if_neg repeated, if_neg repeated, chain_singleton,
      findSome?_ends options bounded kind cut first here]
    by_cases taken : kind.takes options segment = true
    · rw [if_pos taken, if_pos taken, List.findSome?_singleton]
      simp
    · rw [if_neg taken, if_neg taken, List.findSome?_nil]

/-- A block of at least one segment is not empty. -/
theorem ne_nil_of_mem_several {kind : ParameterKind} {segments block : List Text}
    (found : block ∈ kind.several options segments) : block ≠ [] := by
  rintro rfl
  cases segments with
  | nil => simp [several] at found
  | cons segment segments =>
    rw [several] at found
    split at found
    · split at found <;> simp at found
    · simp at found

end ParameterKind

/-! ## Items -/

/-- The groups after a parameter whose group has a number has taken a block of segments from a
position on. -/
def markBlock (index position : Nat) (block : List Text) (slots : List Slot) : List Slot :=
  if block.isEmpty then slots
  else slots.modify (index - 1) fun _ =>
    ⟨some (position + 1), some (position + (slashed block).length)⟩

/-- The spot after a parameter whose group has a number has taken a block of segments. -/
def Regex.Spot.takeBlock (spot : Spot) (index : Nat) (block : List Text) (rest : Text) : Spot :=
  ⟨(spot.advance (slashed block) rest).toPlace, markBlock index spot.position block spot.slots⟩

/-- A group that is opened after a slash and closed after a block of segments marks the block. -/
theorem closeGroup_openGroup (spot : Spot) (index : Nat) {block : List Text} (given : block ≠ [])
    (middle rest : Text) :
    ((((spot.advance ['/'] middle).openGroup index).advance ((slashed block).drop 1)
      rest).closeGroup index) = spot.takeBlock index block rest := by
  obtain ⟨segment, block, rfl⟩ := List.exists_cons_of_ne_nil given
  have slots : ((((spot.advance ['/'] middle).openGroup index).advance
        ((slashed (segment :: block)).drop 1) rest).closeGroup index).slots =
      markBlock index spot.position (segment :: block) spot.slots := by
    simp only [Spot.closeGroup, Spot.openGroup, Spot.modify, Spot.advance, markBlock,
      List.modify_modify_eq, Place.position, List.isEmpty_cons, Bool.false_eq_true, if_false]
    congr 1
    funext slot
    simp
    omega
  have place : ((((spot.advance ['/'] middle).openGroup index).advance
        ((slashed (segment :: block)).drop 1) rest).closeGroup index).toPlace =
      (spot.advance (slashed (segment :: block)) rest).toPlace := by
    simp [Spot.closeGroup, Spot.openGroup, Spot.modify, Spot.advance]
  rw [Spot.takeBlock, ← slots, ← place]

/-- A parameter takes a block of at least one segment. -/
theorem ParameterKind.findSome?_taken {α : Type} {go : Spot → Option α} (options : Options)
    (bounded : Bounded go) (kind : ParameterKind) (index : Nat) {spot : Spot}
    {segments : List Text} (cut : spot.after = slashed segments)
    (whole : ∀ segment ∈ segments, IsSegment segment) :
    (chain (kind.takenEnds options index) spot).findSome? go =
      (kind.several options segments).findSome? fun block =>
        go (spot.takeBlock index block (slashed (segments.drop block.length))) := by
  rw [takenEnds]
  cases segments with
  | nil => exact findSome?_slash_none _ (by simp [cut])
  | cons segment segments =>
    have closing : Bounded fun ended => go (ended.closeGroup index) :=
      fun ended c found => bounded (ended.closeGroup index) c found
    have faced : spot.after = '/' :: (segment ++ slashed segments) := cut
    rw [findSome?_slash _ faced, chain_singleton, groupEnds, List.findSome?_map]
    have inside := kind.findSome?_captured options closing
      (show ((spot.advance ['/'] (segment ++ slashed segments)).openGroup index).after =
        segment ++ slashed segments from rfl) whole
    refine inside.trans (findSome?_congr fun block found => ?_)
    rw [← closeGroup_openGroup spot index (kind.ne_nil_of_mem_several found)
      (segment ++ slashed segments)]

/-- A parameter that may be left out takes no segment after all blocks of some. -/
def ParameterKind.blocks (options : Options) (kind : ParameterKind) (segments : List Text) :
    List (List Text) :=
  kind.several options segments ++ if kind.modifier.mayBeEmpty then [[]] else []

namespace SegmentItem

/-- The blocks of segments that an item can take, in the order of its preferences. -/
def blocks (options : Options) : SegmentItem → (segments : List Text) → List (List Text)
  | literal text, segment :: _ => if sameText options text segment then [[segment]] else []
  | literal _, [] => []
  | parameter kind _, segments => kind.blocks options segments

/-- The ends of the parts of an item; `index` is the number of its group, if it has one. -/
def ends (options : Options) (index : Nat) : SegmentItem → List (Spot → List Spot)
  | literal text => ('/' :: text).map fun c => charEnds options.flags c.toNat
  | parameter kind _ =>
    if kind.modifier.mayBeEmpty then
      [fun spot => chain (kind.takenEnds options index) spot ++ [spot]]
    else kind.takenEnds options index

/-- The spot after an item has taken a block of segments. -/
def take (index : Nat) (block : List Text) (rest : Text) (spot : Spot) : SegmentItem → Spot
  | literal _ => spot.advance (slashed block) rest
  | parameter _ _ => spot.takeBlock index block rest

variable {α : Type} {go : Spot → Option α} {options : Options}

/-- An item takes a block of whole segments. -/
theorem findSome?_ends (bounded : Bounded go) {item : SegmentItem} (readable : item.Readable)
    (index : Nat) {spot : Spot} {segments : List Text} (cut : spot.after = slashed segments)
    (whole : ∀ segment ∈ segments, IsSegment segment) :
    (chain (item.ends options index) spot).findSome? go =
      (item.blocks options segments).findSome? fun block =>
        go (item.take index block (slashed (segments.drop block.length)) spot) := by
  cases item with
  | literal text =>
    rw [ends, List.map_cons]
    cases segments with
    | nil => exact findSome?_slash_none _ (by simp [cut])
    | cons segment segments =>
      have faced : spot.after = '/' :: (segment ++ slashed segments) := cut
      have plain : '/' ∉ text := fun found => readable.2 _ found (by decide)
      rw [findSome?_slash _ faced, findSome?_literal bounded plain rfl
        (whole segment (List.mem_cons_self ..)) (atSegment_slashed segments), blocks]
      by_cases same : sameText options text segment = true
      · rw [if_pos same, if_pos same, List.findSome?_singleton]
        simp [take]
      · rw [if_neg same, if_neg same, List.findSome?_nil]
  | parameter kind name =>
    have some := kind.findSome?_taken options bounded index cut whole
    have stay : spot.takeBlock index [] (slashed segments) = spot := by
      rw [← cut]
      rfl
    rw [ends, blocks, ParameterKind.blocks]
    -- Where nothing has to be taken, this is what is tried last.
    by_cases empty : kind.modifier.mayBeEmpty = true
    · rw [if_pos empty, if_pos empty, chain_singleton, List.findSome?_append,
        List.findSome?_append, some, List.findSome?_singleton, List.findSome?_singleton]
      simp [take, stay]
    · rw [if_neg empty, if_neg empty, List.append_nil, some]
      rfl

/-- What goes on after an item leads nowhere from inside a segment. -/
theorem bounded_ends (options : Options) (bounded : Bounded go) (index : Nat) (item : SegmentItem) :
    Bounded fun spot => (chain (item.ends options index) spot).findSome? go := by
  intro spot c found slash lineEnd
  have other : ∀ d ∈ spot.after.head?, d ≠ '/' := by
    intro d same
    obtain rfl : c = d := Option.mem_unique found same
    exact slash
  show (chain (item.ends options index) spot).findSome? go = none
  cases item with
  | literal text => exact findSome?_slash_none _ other
  | parameter kind name =>
    rw [ends]
    by_cases empty : kind.modifier.mayBeEmpty = true
    · rw [if_pos empty, chain_singleton, List.findSome?_append, ParameterKind.takenEnds,
        findSome?_slash_none _ other, Option.none_or, List.findSome?_singleton]
      exact bounded spot c found slash lineEnd
    · rw [if_neg empty]
      exact findSome?_slash_none _ other

end SegmentItem

end RoutePattern
