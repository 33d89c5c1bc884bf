import RoutePattern.Proofs.Reading.Scan

/-!
# What a token does to a reader

However much the syntax of regular expressions has to offer, a token that is read does one of a few
things: it changes what the innermost group holds, sets flags of the whole expression, opens a group
that remembers nothing, opens one that remembers what it matches, or closes the innermost one
(`readToken_effect`). Only the fourth adds a group to the expression.
-/
namespace RoutePattern.Regex

/-- An item that a quantifier may follow: no anchor and no repetition. -/
def Item.isRepeatable : Item → Bool
  | part (.anchor _) | part (.loop ..) => false
  | _ => true

/-- What is neither an anchor nor a repetition may be repeated. -/
theorem Item.isRepeatable_of_ne {item : Item} (anchored : ∀ place, item ≠ .part (.anchor place))
    (looped : ∀ least most appetite body, item ≠ .part (.loop least most appetite body)) :
    item.isRepeatable = true := by
  unfold isRepeatable
  split
  · exact absurd rfl (anchored _)
  · exact absurd rfl (looped _ _ _ _)
  · rfl

/-- What a token changes inside the innermost group. -/
inductive Frame.Edits (frame : Frame) : Frame → Prop
  | nothing : frame.Edits frame
  /-- One more expression, which remembers nothing. -/
  | adds (expr : Expr) (free : expr.groupCount = 0) :
    frame.Edits { frame with items := .part expr :: frame.items }
  /-- The latest item is repeated. -/
  | repeats {item : Item} {items : List Item} (latest : frame.items = item :: items)
    (least : Nat) (most : Option Nat) (appetite : Appetite) :
    frame.Edits { frame with
      items := .part (.loop least most appetite (.sequence item.parts)) :: items }
  /-- The next branch begins. -/
  | splits (allowed : ∀ index, frame.kind = .conditional index → frame.branches = []) :
    frame.Edits { frame with branches := frame.branch :: frame.branches, items := [] }

namespace Reader

/-- What a token at a position does to a reader. -/
inductive Effect (position : Nat) (reader next : Reader) : Prop
  /-- The innermost group stays open. -/
  | edits (frame : reader.frame.Edits next.frame) (outer : next.outer = reader.outer)
    (widths : next.widths = reader.widths) (names : next.names = reader.names)
    (flags : next.flags = reader.flags)
  /-- Flags of the whole expression are set, in front of everything else. -/
  | sets (verbose : Bool) (outermost : reader.outer = []) (branches : reader.frame.branches = [])
    (items : reader.frame.items = []) (frame : next.frame = { reader.frame with verbose := verbose })
    (outer : next.outer = reader.outer) (widths : next.widths = reader.widths)
    (names : next.names = reader.names)
  /-- A group is opened that remembers nothing. -/
  | opens (kind : FrameKind) (verbose : Bool) (plain : ∀ index, kind ≠ .capture index)
    (frame : next.frame = ⟨kind, position, verbose, [], []⟩)
    (outer : next.outer = reader.frame :: reader.outer) (widths : next.widths = reader.widths)
    (names : next.names = reader.names) (flags : next.flags = reader.flags)
  /-- A group is opened that remembers what it matches, perhaps with a name. -/
  | captures (verbose : Bool)
    (frame : next.frame = ⟨.capture (reader.widths.length + 1), position, verbose, [], []⟩)
    (outer : next.outer = reader.frame :: reader.outer)
    (widths : next.widths = reader.widths ++ [none]) (names : reader.names <+: next.names)
    (flags : next.flags = reader.flags)
  /-- The innermost group is closed. -/
  | closes {outermost : Frame} {outer : List Frame} (inside : reader.outer = outermost :: outer)
    (same : next = reader.closeFrame outermost outer)

variable {reader next : Reader} {position : Nat}

/-- Nothing changes where nothing is read. -/
theorem Effect.refl (position : Nat) (reader : Reader) : reader.Effect position reader :=
  .edits .nothing rfl rfl rfl rfl

/-- One more expression without groups. -/
theorem effect_push (position : Nat) (reader : Reader) {expr : Expr} (free : expr.groupCount = 0) :
    reader.Effect position (reader.push expr) :=
  .edits (.adds expr free) rfl rfl rfl rfl

/-- A group that remembers nothing is opened, whatever else the reader takes down. -/
theorem effect_openFrame {kind : FrameKind} {verbose : Bool} {other : Reader}
    (plain : ∀ index, kind ≠ .capture index) (frame : other.frame = reader.frame)
    (outer : other.outer = reader.outer) (widths : other.widths = reader.widths)
    (names : other.names = reader.names) (flags : other.flags = reader.flags) :
    reader.Effect position (other.openFrame kind position verbose) := by
  refine .opens kind verbose plain rfl ?_ widths names flags
  rw [← frame, ← outer]
  rfl

/-- A group that remembers what it matches is opened. -/
theorem effect_openCapture {other : Reader} (frame : other.frame = reader.frame)
    (outer : other.outer = reader.outer) (widths : other.widths = reader.widths)
    (names : reader.names <+: other.names) (flags : other.flags = reader.flags) :
    reader.Effect position (other.openCapture position) := by
  refine .captures other.frame.verbose ?_ ?_ ?_ names flags
  · rw [← widths]
    rfl
  · rw [← frame, ← outer]
    rfl
  · rw [← widths]
    rfl

/-- What a token does without opening a group that remembers what it matches. -/
structure Quiet (position : Nat) (reader next : Reader) : Prop where
  effect : reader.Effect position next
  widths : next.widths.length = reader.widths.length

/-- One more expression without groups. -/
theorem quiet_push (position : Nat) (reader : Reader) {expr : Expr} (plain : expr.groupCount = 0) :
    reader.Quiet position (reader.push expr) :=
  ⟨effect_push position reader plain, rfl⟩

/-- A group that remembers nothing is opened. -/
theorem quiet_openFrame {kind : FrameKind} (plain : ∀ index, kind ≠ .capture index)
    (position : Nat) (reader : Reader) (verbose : Bool) :
    reader.Quiet position (reader.openFrame kind position verbose) :=
  ⟨effect_openFrame plain rfl rfl rfl rfl rfl, rfl⟩

/-- What a parenthesis with a question mark does: a group that remembers what it matches has a
name. -/
structure Marked (position : Nat) (reader next : Reader) : Prop where
  effect : reader.Effect position next
  named : next.widths.length = reader.widths.length ∨ next.names ≠ []

/-- Without a group that remembers what it matches no name is due. -/
theorem Quiet.marked (quiet : reader.Quiet position next) : reader.Marked position next :=
  ⟨quiet.effect, .inl quiet.widths⟩

/-! ## Results of reading -/

/-- Whatever is not refused is of a kind. -/
structure Yields {α : Type} (holds : α → Prop) (result : Except Refusal α) : Prop where
  holds_of_ok : ∀ value, result = .ok value → holds value

section Yields

variable {α : Type} {holds : α → Prop}

/-- What is not refused. -/
theorem Yields.ok {value : α} (found : holds value) : Yields holds (.ok value) := by
  refine ⟨fun other same => ?_⟩
  obtain rfl := Except.ok.inj same
  exact found

/-- What is refused is of every kind. -/
theorem Yields.error (refusal : Refusal) : Yields holds (.error refusal) :=
  ⟨fun _ same => absurd same (by simp)⟩

/-- A fault is refused. -/
theorem Yields.fail (cursor : Cursor) (fault : Fault) (position : Nat) :
    Yields holds (cursor.fail fault position) := by
  unfold Cursor.fail Cursor.refuse
  split
  · exact .error _
  · exact .error _

/-- A result that hangs on a condition. -/
theorem Yields.ite {condition : Prop} [Decidable condition] {first second : Except Refusal α}
    (yes : condition → Yields holds first) (no : ¬condition → Yields holds second) :
    Yields holds (if condition then first else second) := by
  by_cases given : condition
  · rw [if_pos given]
    exact yes given
  · rw [if_neg given]
    exact no given

/-- What comes of a first result. -/
theorem Yields.bind {β : Type} {first : Except Refusal β} {rest : β → Except Refusal α}
    (yields : ∀ value, first = .ok value → Yields holds (rest value)) :
    Yields holds (first >>= rest) := by
  cases result : first with
  | error refusal => exact .error refusal
  | ok value => exact yields value result

/-- A change of a result. -/
theorem Yields.map {β : Type} {first : Except Refusal β} {change : β → α}
    (yields : ∀ value, first = .ok value → holds (change value)) :
    Yields holds (first.map change) := by
  cases result : first with
  | error refusal => exact .error refusal
  | ok value => exact .ok (yields value result)

/-- Results that open no group that remembers what it matches. -/
theorem Yields.marked {result : Except Refusal (Reader × Cursor)}
    (yields : Yields (reader.Quiet position ·.1) result) :
    Yields (reader.Marked position ·.1) result :=
  ⟨fun value same => (yields.holds_of_ok value same).marked⟩

end Yields

/-! ## Escapes and sets -/

variable (reader : Reader) (position : Nat)

/-- A reference adds an expression without groups. -/
theorem readReference_effect (index width : Nat) (after : Cursor) :
    Yields (reader.Effect position ·.1) (reader.readReference index position width after) := by
  unfold readReference
  split
  · exact .fail ..
  · split
    · exact .fail ..
    · exact .bind fun _ _ => .ok (effect_push position reader rfl)

/-- A numbered escape adds an expression without groups. -/
theorem readNumberEscape_effect (digit : Char) (cursor : Cursor) :
    Yields (reader.Effect position ·.1) (reader.readNumberEscape digit position cursor) := by
  unfold readNumberEscape
  simp only
  split
  · split
    · exact .fail ..
    · exact .ok (effect_push position reader rfl)
  · exact readReference_effect ..

/-- An escape adds an expression without groups. -/
theorem readEscape_effect (letter : Char) (cursor : Cursor) :
    Yields (reader.Effect position ·.1) (reader.readEscape letter position cursor) := by
  unfold readEscape
  split
  · exact .ok (effect_push position reader rfl)
  · exact .ok (effect_push position reader rfl)
  · exact .ok (effect_push position reader rfl)
  · split
    · exact .map fun _ _ => effect_push position reader rfl
    · split
      · exact .ok (effect_push position reader rfl)
      · split
        · exact readNumberEscape_effect ..
        · exact .map fun _ _ => effect_push position reader rfl

/-- A set is an expression without groups. -/
theorem readSet_free (cursor : Cursor) :
    Yields (·.1.groupCount = 0) (readSet position cursor) := by
  unfold readSet
  refine .bind fun result _ => ?_
  simp only
  split
  · exact .ok rfl
  · exact .ok rfl
  · exact .ok rfl

/-! ## Repetitions -/

/-- A repetition takes the place of what it repeats. -/
theorem repeatLatest_effect (least : Nat) (most : Option Nat) (cursor : Cursor) :
    Yields (reader.Effect position ·.1) (reader.repeatLatest least most position cursor) := by
  unfold repeatLatest
  split
  · exact .fail ..
  · exact .fail ..
  · exact .fail ..
  · next item items _ _ found =>
    exact .ok (.edits (.repeats found ..) rfl rfl rfl rfl)

/-- Braces repeat what stands before them, or stand for themselves. -/
theorem readBraces_effect (cursor : Cursor) :
    Yields (reader.Effect position ·.1) (reader.readBraces position cursor) := by
  unfold readBraces
  split
  · exact .ok (effect_push position reader rfl)
  · next _ _ after _ =>
    -- The bounds are compared behind each of the four ways in which counts may be given.
    have last (least : Nat) (most : Option Nat) : Yields (reader.Effect position ·.1)
        (if most.any (· < least) then after.fail .repeatBoundsReversed cursor.position
          else reader.repeatLatest least most position after) := by
      split
      · exact .fail ..
      · exact repeatLatest_effect ..
    have second (least : Nat) (result : Except Refusal (Option Nat)) :
        Yields (reader.Effect position ·.1) (result >>= fun most =>
          if most.any (· < least) then after.fail .repeatBoundsReversed cursor.position
          else reader.repeatLatest least most position after) :=
      .bind fun most _ => last least most
    simp only
    split
    · refine .bind fun least _ => ?_
      split
      · exact second least _
      · exact second least _
    · refine .bind fun least _ => ?_
      split
      · exact second least _
      · exact second least _

/-! ## Opening groups -/

/-- A group with a name remembers what it matches. -/
theorem openNamed_marked (cursor : Cursor) :
    Yields (reader.Marked position ·.1)
      (reader.openNamed position cursor) := by
  unfold openNamed
  refine .bind fun result _ => ?_
  simp only
  split
  · exact .fail ..
  · split
    · exact .fail ..
    · refine .ok ⟨?_, .inr ?_⟩
      · exact effect_openCapture rfl rfl rfl (List.prefix_append ..) rfl
      · simp [openCapture, openFrame]

/-- A reference by name adds an expression without groups. -/
theorem readNamedReference_quiet (cursor : Cursor) :
    Yields (reader.Quiet position ·.1) (reader.readNamedReference cursor) := by
  unfold readNamedReference
  refine .bind fun result _ => ?_
  simp only
  split
  · exact .fail ..
  · split
    · exact .fail ..
    · split
      · exact .fail ..
      · exact .bind fun _ _ => .ok (quiet_push position reader rfl)

/-- A condition leaves the groups as they are. -/
theorem conditionGroup_same (name : Text) (place : Nat) (after : Cursor) :
    Yields (fun result => ∃ references, result.2 = { reader with references := references })
      (reader.conditionGroup name place after) := by
  unfold conditionGroup
  split
  · split
    · exact .fail ..
    · exact .ok ⟨_, rfl⟩
  · split
    · split
      · exact .fail ..
      · split
        · exact .fail ..
        · split
          · exact .ok ⟨_, rfl⟩
          · exact .ok ⟨_, rfl⟩
    · exact .fail ..

/-- A condition remembers nothing. -/
theorem openConditional_quiet (cursor : Cursor) :
    Yields (reader.Quiet position ·.1) (reader.openConditional position cursor) := by
  unfold openConditional
  refine .bind fun name _ => .bind fun result found => .bind fun _ _ => ?_
  obtain ⟨references, same⟩ := (conditionGroup_same ..).holds_of_ok result found
  refine .ok ⟨effect_openFrame (fun _ => by simp) ?_ ?_ ?_ ?_ ?_, ?_⟩
  · rw [same]
  · rw [same]
  · rw [same]
  · rw [same]
  · rw [same]
  · show result.2.widths.length = reader.widths.length
    rw [same]

/-- A look-behind remembers nothing. -/
theorem openBehind_quiet (negated : Bool) :
    reader.Quiet position (reader.openBehind negated position) :=
  ⟨effect_openFrame (fun _ => by simp) rfl rfl rfl rfl rfl, rfl⟩

/-- A group with flags remembers nothing, and flags of the whole expression open no group. -/
theorem openFlags_quiet (first : Option FlagName) (cursor : Cursor) :
    Yields (reader.Quiet position ·.1) (reader.openFlags first position cursor) := by
  unfold openFlags
  refine .bind fun result _ => ?_
  simp only
  split
  · exact .ok (quiet_openFrame (fun _ => by simp) ..)
  · split
    · exact .fail ..
    · next first =>
      simp only [Bool.or_eq_true, Bool.not_eq_true', List.isEmpty_eq_false_iff, not_or,
        Decidable.not_not] at first
      obtain ⟨⟨outermost, branches⟩, items⟩ := first
      exact .ok ⟨.sets _ outermost branches items rfl rfl rfl rfl, rfl⟩

/-- After an angle bracket a look-behind is opened. -/
theorem openAngle_quiet (cursor : Cursor) :
    Yields (reader.Quiet position ·.1) (reader.openAngle position cursor) := by
  unfold openAngle
  split
  · exact .fail ..
  · exact .ok (openBehind_quiet ..)
  · exact .ok (openBehind_quiet ..)
  · exact .fail ..
  · exact .fail ..

/-- A letter after the question mark opens a group with a name or refers to one. -/
theorem openLettered_marked (cursor : Cursor) :
    Yields (reader.Marked position ·.1) (reader.openLettered position cursor) := by
  unfold openLettered
  split
  · exact .fail ..
  · exact openNamed_marked ..
  · exact (readNamedReference_quiet ..).marked
  · exact .fail ..
  · exact .fail ..

/-- A parenthesis with a question mark. -/
theorem openExtension_marked (cursor : Cursor) :
    Yields (reader.Marked position ·.1) (reader.openExtension position cursor) := by
  unfold openExtension
  simp only
  split
  · exact .fail ..
  · exact openLettered_marked ..
  · exact .ok (quiet_openFrame (fun _ => by simp) ..).marked
  · exact .map fun _ _ => ⟨.refl position reader, .inl rfl⟩
  · exact .ok (quiet_openFrame (fun _ => by simp) ..).marked
  · exact .ok (quiet_openFrame (fun _ => by simp) ..).marked
  · exact (openAngle_quiet ..).marked
  · exact (openConditional_quiet ..).marked
  · exact .ok (quiet_openFrame (fun _ => by simp) ..).marked
  · exact (openFlags_quiet ..).marked
  · exact .fail ..
  · split
    · exact (openFlags_quiet ..).marked
    · exact .fail ..

/-- A parenthesis opens a group, or stands for what the question mark after it says. -/
theorem openGroup_effect (cursor : Cursor) :
    Yields (reader.Effect position ·.1) (reader.openGroup position cursor) := by
  unfold openGroup
  refine .ite (fun _ => ⟨fun result found => ?_⟩) fun _ =>
    .ok (effect_openCapture rfl rfl rfl List.prefix_rfl rfl)
  exact ((openExtension_marked ..).holds_of_ok result found).effect

/-! ## Tokens -/

/-- A character outside of sets and escapes. -/
theorem readChar_effect (c : Char) (cursor : Cursor) :
    Yields (reader.Effect position ·.1) (reader.readChar c position cursor) := by
  unfold readChar
  refine .ite (fun _ => .ok (.refl position reader)) fun _ => ?_
  refine .ite (fun _ => .ok (.refl position reader)) fun _ => ?_
  refine .ite (fun _ => .bind fun result found => .ok (effect_push position reader
    ((readSet_free position cursor).holds_of_ok result found))) fun _ => ?_
  refine .ite (fun _ => repeatLatest_effect ..) fun _ => ?_
  refine .ite (fun _ => repeatLatest_effect ..) fun _ => ?_
  refine .ite (fun _ => repeatLatest_effect ..) fun _ => ?_
  refine .ite (fun _ => readBraces_effect ..) fun _ => ?_
  refine .ite (fun _ => .ok (effect_push position reader rfl)) fun _ => ?_
  refine .ite (fun _ => openGroup_effect ..) fun _ => ?_
  refine .ite (fun _ => .ok (effect_push position reader rfl)) fun _ => ?_
  exact .ite (fun _ => .ok (effect_push position reader rfl))
    fun _ => .ok (effect_push position reader rfl)

/-- A token. -/
theorem readToken_effect (token : Token) (cursor : Cursor) :
    Yields (reader.Effect position ·.1) (reader.readToken token position cursor) := by
  unfold readToken
  split
  · exact readEscape_effect ..
  · exact .error _
  · unfold readBar
    split
    · exact .error _
    · next single =>
      refine .ok (.edits (.splits fun index kind => ?_) rfl rfl rfl rfl)
      cases branches : reader.frame.branches with
      | nil => rfl
      | cons branch more => exact absurd branches (single index branch more kind)
  · unfold readClosing
    split
    · exact .bind fun _ _ => .error _
    · next inside => exact .ok (.closes inside rfl)
  · exact readChar_effect ..

/-- A parenthesis that a question mark follows. -/
theorem readToken_marked (cursor : Cursor) (sign : cursor.startsWith '?' = true) :
    Yields (reader.Marked position ·.1) (reader.readToken (.plain '(') position cursor) := by
  have opens : reader.readToken (.plain '(') position cursor =
      reader.openExtension position cursor.next := by
    simp [readToken, readChar, Unicode.isAsciiBlank, openGroup, sign]
  rw [opens]
  exact openExtension_marked ..

end Reader

end RoutePattern.Regex
