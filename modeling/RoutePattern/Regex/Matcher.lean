import RoutePattern.Regex.Character

/-!
# Matching by trial in order

An expression is tried at a place of a text and hands every place where it can end, in the order
of its preferences, to what is to be matched after it. The first place from which all the rest
matches is taken. So the meaning of an expression is a `Matcher`, a function of its continuation,
and the meaning of each way of building expressions is a function on matchers.

Where there is a choice, the place is noted before a possibility is tried. An attempt that fails
tells which place was noted last: a possessive repetition goes on from there when one more
repetition has failed, though nothing else does.
-/
namespace RoutePattern.Regex

/-- The places where a group was last opened and last closed. -/
structure Slot where
  opened : Option Nat
  closed : Option Nat
  deriving Repr, DecidableEq, Inhabited

namespace Slot

/-- The slot of a group that has matched nothing yet. -/
def unset : Slot := ⟨none, none⟩

/-- The places between which a group has matched. A group that has been opened again after it was
last closed counts only if that leaves no gap. -/
def span? (slot : Slot) : Option (Nat × Nat) :=
  match slot.opened, slot.closed with
  | some start, some stop => if start ≤ stop then some (start, stop) else none
  | _, _ => none

end Slot

/-- A place in a text. -/
structure Place where
  /-- The text before the place, the nearest character first. -/
  before : Text
  /-- The text after the place. -/
  after : Text
  deriving Repr, DecidableEq, Inhabited

namespace Place

/-- The count of characters before the place. -/
def position (place : Place) : Nat := place.before.length

/-- The place a number of characters before; none if there are not so many. -/
def back? : (count : Nat) → Place → Option Place
  | 0, place => some place
  | count + 1, place =>
    match place.before with
    | [] => none
    | c :: before => back? count ⟨before, c :: place.after⟩

/-- At least so many characters follow. -/
def hasRoom : (count : Nat) → Place → Bool
  | 0, _ => true
  | count + 1, place => !(place.after.drop count).isEmpty

/-- The place and those after one, two, … accepted characters, up to the given count. -/
def run (accepts : Char → Bool) (most : Option Nat) (before : Text) : Text → List Place
  | [] => [⟨before, []⟩]
  | c :: after =>
    ⟨before, c :: after⟩ ::
      if most.all (0 < ·) && accepts c then run accepts (most.map (· - 1)) (c :: before) after
      else []

end Place

/-- A place in a text, with what the groups have matched so far. -/
structure State extends Place where
  /-- The place noted last. -/
  noted : Place
  /-- The groups from the first on. -/
  slots : List Slot
  deriving Repr, DecidableEq

namespace State

/-- The place after the next character, which is given with what follows it. -/
def step (state : State) (c : Char) (rest : Text) : State :=
  { state with before := c :: state.before, after := rest }

/-- The place is noted. -/
def note (state : State) : State := { state with noted := state.toPlace }

/-- Another place, which is noted. -/
def goTo (state : State) (place : Place) : State :=
  { state with toPlace := place, noted := place }

/-- A group is opened here. -/
def openGroup (state : State) (index : Nat) : State :=
  { state with
    slots := state.slots.modify (index - 1) fun slot =>
      { slot with opened := some state.position } }

/-- A group is closed here. -/
def closeGroup (state : State) (index : Nat) : State :=
  { state with
    slots := state.slots.modify (index - 1) fun slot =>
      { slot with closed := some state.position } }

/-- The places between which a group has matched. -/
def group? (state : State) (index : Nat) : Option (Nat × Nat) :=
  (state.slots[index - 1]?.getD .unset).span?

/-- The text between two places. -/
def slice (state : State) (start stop : Nat) : Text :=
  ((state.before.reverse ++ state.after).drop start).take (stop - start)

/-- A character next to the place is a word character. -/
def meetsWord (ascii : Bool) : Text → Bool
  | [] => false
  | c :: _ => Category.word.holds ascii c.toNat

/-- A word starts or ends here. -/
def atWordEdge (state : State) (ascii : Bool) : Bool :=
  meetsWord ascii state.before != meetsWord ascii state.after

/-- A condition holds at the place. The empty text has neither an edge nor an inside of words. -/
def holds (state : State) (flags : Flags) : Anchor → Bool
  | .lineStart => state.before.isEmpty || (flags.multiline && state.before.head? == some '\n')
  | .lineEnd =>
    state.after.isEmpty || state.after == ['\n'] ||
      (flags.multiline && state.after.head? == some '\n')
  | .textStart => state.before.isEmpty
  | .textEnd => state.after.isEmpty
  | .wordEdge => state.atWordEdge flags.ascii
  | .wordInside =>
    !(state.before.isEmpty && state.after.isEmpty) && !state.atWordEdge flags.ascii

end State

/-! ## Matchers -/

/-- How an attempt to match ends. -/
inductive Attempt where
  /-- Nothing matches; the place noted last is kept. -/
  | failed (noted : Place)
  /-- All matches, and ends here. -/
  | matched (state : State)
  deriving Repr, DecidableEq

namespace Attempt

/-- The attempt, with another place noted if it has failed. -/
def failAt (place : Place) : Attempt → Attempt
  | failed _ => failed place
  | matched state => matched state

/-- The place where a match ends. -/
def ended? : Attempt → Option State
  | failed _ => none
  | matched state => some state

end Attempt

/-- A way of going on from a place. -/
abbrev Continuation := State → Attempt

/-- The meaning of an expression: how to go on from a place, given how to go on after it. -/
abbrev Matcher := Continuation → Continuation

namespace Matcher

/-- The first match of a matcher on its own; its end is noted. -/
def first (matcher : Matcher) (state : State) : Attempt :=
  matcher (fun ended => .matched ended.note) state

/-- One character of a class. -/
def one (accepts : Char → Bool) : Matcher := fun next state =>
  match state.after with
  | [] => .failed state.noted
  | c :: rest => if accepts c then next (state.step c rest) else .failed state.noted

/-- A condition on the place. -/
def test (condition : State → Bool) : Matcher := fun next state =>
  if condition state then next state else .failed state.noted

/-- One matcher after the other. -/
def seq (one two : Matcher) : Matcher := fun next => one (two next)

/-- A matcher that is tried if the text may go on as it asks. -/
def offered (lead : Lead) (body : Matcher) : Matcher := fun next state =>
  if lead.admits state.after then body next state.note else .failed state.noted

/-- The first matcher or, failing that, the second. -/
def alt (one two : Matcher) : Matcher := fun next state =>
  match one next state with
  | .matched ended => .matched ended
  | .failed noted => two next { state with noted := noted }

/-- A matcher between the opening and the closing of a group. -/
def group (index : Nat) (body : Matcher) : Matcher := fun next state =>
  body (fun ended => next (ended.closeGroup index)) (state.openGroup index)

/-- A matcher whose first match is final. -/
def atomic (body : Matcher) : Matcher := fun next state =>
  match body.first state.note with
  | .matched ended => next ended
  | .failed _ => .failed state.toPlace

/-- A look at what a matcher finds from another place, or from none. What its groups match is
kept. -/
def look (negated : Bool) (body : Matcher) (start : Option Place) : Matcher := fun next state =>
  match start with
  | none => if negated then next state else .failed state.noted
  | some place =>
    match body.first (state.goTo place), negated with
    | .matched ended, false => next { state with noted := ended.noted, slots := ended.slots }
    | .failed noted, true => next { state with noted := noted }
    | .matched ended, true => .failed ended.noted
    | .failed noted, false => .failed noted

/-- The same characters again, up to case where it is ignored. -/
def literally (flags : Flags) : Text → Matcher
  | [] => fun next => next
  | expected :: text =>
    (one fun c =>
      if flags.ignoreCase then lowerCode flags expected.toNat == lowerCode flags c.toNat
      else expected == c).seq (literally flags text)

/-- What a group has matched, again. -/
def again (flags : Flags) (index : Nat) : Matcher := fun next state =>
  match state.group? index with
  | some (start, stop) => literally flags (state.slice start stop) next state
  | none => .failed state.noted

/-- One of two matchers, by whether a group has matched. -/
def ifGroup (index : Nat) (yes no : Matcher) : Matcher := fun next state =>
  if (state.group? index).isSome then yes next state else no next state

/-! ## Repetitions of one character -/

/-- The first of several places from which all the rest matches. -/
def fromPlaces (places : List Place) : Matcher := fun next state =>
  match places with
  | [] => .failed state.noted
  | place :: places =>
    match next (state.goTo place) with
    | .matched ended => .matched ended
    | .failed noted => fromPlaces places next { state with noted := noted }

/-- Repetitions of one character. They are counted first, and then the rest is tried after as many
of them as the appetite allows; `lead` is what the rest asks of the text. A test that goes through
a list notes the place after each character that it counts. -/
def chars (charTest : CharTest) (least : Nat) (most : Option Nat) (appetite : Appetite)
    (lead : Lead) : Matcher := fun next state =>
  let counted (limit : Option Nat) := Place.run charTest.accepts limit state.before state.after
  let noteLast (places : List Place) : State :=
    if charTest.listed then { state with noted := places.getLastD state.toPlace } else state.note
  if !state.hasRoom least then .failed state.noted
  else
    match appetite with
    | .greedy =>
      let places := counted most
      let mayEnd (place : Place) : Bool :=
        match lead with
        | .char code => (Lead.char code).admits place.after
        | _ => true
      fromPlaces ((places.drop least).reverse.filter mayEnd) next (noteLast places)
    | .possessive =>
      let places := counted most
      match (places.drop least).getLast? with
      | some place => next { noteLast places with toPlace := place }
      | none => .failed (noteLast places).noted
    | .lazy =>
      let required := counted (some least)
      if required.length ≤ least then .failed (noteLast required).noted
      else
        let tried := (counted most).drop least
        match fromPlaces tried next state with
        | .matched ended => .matched ended
        | .failed _ =>
          let places := if charTest.listed then counted (most.map (· + 1)) else tried
          .failed (places.getLastD state.toPlace)

/-! ## Repetitions of other expressions -/

/-- One more repetition is allowed: the greatest count is not reached, and the latest repetition
has moved the place. -/
def mayRepeat (most : Option Nat) (count : Nat) (latest : Option Nat) (state : State) : Bool :=
  most.all (count < ·) && latest != some state.position

/-- As many repetitions as possible, then fewer. At most `fuel` repetitions are tried; `latest` is
the place where the latest repetition beyond the least count began. -/
def greedy (body : Matcher) (least : Nat) (most : Option Nat) :
    (fuel count : Nat) → (latest : Option Nat) → Matcher
  | 0, _, _ => fun _ state => .failed state.toPlace
  | fuel + 1, count, latest => fun next state =>
    if count < least then
      (body (greedy body least most fuel (count + 1) latest next) state.note).failAt state.toPlace
    else
      match
        if mayRepeat most count latest state then
          body (greedy body least most fuel (count + 1) (some state.position) next) state.note
        else .failed state.toPlace
      with
      | .matched ended => .matched ended
      | .failed _ => (next state.note).failAt state.toPlace

/-- As few repetitions as possible, then more. -/
def lazy (body : Matcher) (least : Nat) (most : Option Nat) :
    (fuel count : Nat) → (latest : Option Nat) → Matcher
  | 0, _, _ => fun _ state => .failed state.toPlace
  | fuel + 1, count, latest => fun next state =>
    if count < least then
      (body (lazy body least most fuel (count + 1) latest next) state.note).failAt state.toPlace
    else
      match next state.note with
      | .matched ended => .matched ended
      | .failed _ =>
        if mayRepeat most count latest state then
          (body (lazy body least most fuel (count + 1) (some state.position) next)
            state.note).failAt state.toPlace
        else .failed state.toPlace

/-- The place after as many repetitions as possible, each of them final. Where one more repetition
fails, this is the place that it has noted last. -/
def exhaust (body : Matcher) (least : Nat) (most : Option Nat) :
    (fuel count : Nat) → (latest : Option Nat) → Continuation
  | 0, _, _ => fun state => .failed state.toPlace
  | fuel + 1, count, latest => fun state =>
    if count < least then
      match body.first state.note with
      | .matched ended => exhaust body least most fuel (count + 1) latest ended
      | .failed noted => .failed noted
    else if mayRepeat most count latest state then
      match body.first state.note with
      | .matched ended => exhaust body least most fuel (count + 1) (some state.position) ended
      | .failed noted => .matched (state.goTo noted)
    else .matched state.note

/-- The count of required repetitions that have to be tried. Among more repetitions than there are
characters left, some move nothing, and how many of these there are shows neither in the places
where the repetitions end nor in their order, as long as the matcher refers to no group and never
goes back; `groups` of them are in it. -/
def required (least : Nat) (groups : Option Nat) (place : Place) : Nat :=
  match groups with
  | none => least
  | some groups => min least ((place.after.length + 1) * (groups + 1) + 1)

/-- Repetitions of a matcher. Beyond the least count every repetition but the last moves the place,
so there are no more of them than there are places. -/
def loop (least : Nat) (most : Option Nat) (appetite : Appetite) (groups : Option Nat)
    (body : Matcher) : Matcher := fun next state =>
  let fewest := required least groups state.toPlace
  let most := most.map (· - (least - fewest))
  let fuel := fewest + state.position + state.after.length + 2
  match appetite with
  | .greedy => greedy body fewest most fuel 0 none next state
  | .lazy => lazy body fewest most fuel 0 none next state
  | .possessive =>
    match exhaust body fewest most fuel 0 none state with
    | .matched ended => next ended
    | .failed _ => .failed state.toPlace

end Matcher

/-! ## Expressions -/

/-- The meaning of an expression under flags; `lead` is what comes after it asks of the text. -/
def Expr.matcher : Expr → Flags → Lead → Matcher
  | .empty, _, _ => fun next => next
  | .char code, flags, _ => .one fun c => sameCode flags code c.toNat
  | .notChar code, flags, _ => .one fun c => !sameCode flags code c.toNat
  | .any, flags, _ => .one fun c => flags.dotAll || c != '\n'
  | .set negated items, flags, _ => .one fun c => setHolds flags negated items c.toNat
  | .anchor place, flags, _ => .test fun state => state.holds flags place
  | .seq first second, flags, lead =>
    (first.matcher flags ((second.lead? flags).getD lead)).seq (second.matcher flags lead)
  | .alt first second, flags, _ =>
    let one := Matcher.offered ((first.lead? flags).getD .undecided)
      (first.matcher flags .undecided)
    let two := second.matcher flags .undecided
    one.alt
      (if second.isChoice then two
        else .offered ((second.lead? flags).getD .undecided) two)
  | .group index body, flags, _ => .group index (body.matcher flags .undecided)
  | .flagged change body, flags, lead => body.matcher (flags.apply change) lead
  | .atomic body, flags, _ => .atomic (body.matcher flags .undecided)
  | .ahead negated body, flags, _ => fun next state =>
    Matcher.look negated (body.matcher flags .undecided) (some state.toPlace) next state
  | .behind negated width body, flags, _ => fun next state =>
    Matcher.look negated (body.matcher flags .undecided) (state.back? width.least) next state
  | .loop least most appetite body, flags, lead =>
    match body.single? flags with
    | some charTest => .chars charTest least most appetite lead
    | none =>
      .loop least most appetite body.ownGroups? (body.matcher flags .undecided)
  | .again index, flags, _ => .again flags index
  | .ifGroup index yes no, flags, lead =>
    .ifGroup index (yes.matcher flags (if no == .empty then lead else .undecided))
      (no.matcher flags lead)

end RoutePattern.Regex
