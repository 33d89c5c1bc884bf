import RoutePattern.Proofs.Matching.Branches
import RoutePattern.Proofs.Reading.LexedRun

/-!
# Parts that a reader holds

What spreads to rows and choices is true of the expression that a reader ends with where it is true
of all parts on the way. Parts that are not tame never vanish again (`Lexed.tame`), and parts whose
bounds are not in order never come up (`Lexed.ordered`).
-/
namespace RoutePattern.Regex

open RoutePattern.Regex.Expr (isTame isOrdered Spreads spreads_isTame spreads_isOrdered)

/-! ## Properties of all parts -/

/-- All parts that an open group holds have a property. -/
structure Frame.All (holds : Expr → Bool) (frame : Frame) : Prop where
  branches : ∀ branch ∈ frame.branches, branch.all holds = true
  items : ∀ item ∈ frame.items, item.parts.all holds = true

/-- All parts that the open groups hold have a property. -/
def Reader.All (holds : Expr → Bool) (reader : Reader) : Prop :=
  ∀ frame ∈ reader.frame :: reader.outer, frame.All holds

namespace Frame

variable {holds : Expr → Bool} {frame : Frame}

/-- All parts of the branch that is being read. -/
theorem all_branch : frame.branch.all holds = true ↔
    ∀ item ∈ frame.items, item.parts.all holds = true := by
  simp [Frame.branch, List.all_flatMap]

/-- What all branches are together has a property if all their parts have it. -/
theorem all_parts (spreads : Spreads holds) : frame.parts.all holds = true ↔ frame.All holds := by
  rw [Frame.parts, spreads.alternation, List.all_append, List.all_reverse, Bool.and_eq_true,
    List.all_eq_true, List.all_cons, List.all_nil, Bool.and_true, all_branch]
  exact ⟨fun all => ⟨all.1, all.2⟩, fun all => ⟨all.branches, all.items⟩⟩

/-- All branches as one expression. -/
theorem all_expr (spreads : Spreads holds) : holds frame.expr = true ↔ frame.All holds := by
  rw [Frame.expr, spreads.sequence, all_parts spreads]

/-- One more item. -/
theorem all_cons {item : Item} {items : List Item} :
    ({ frame with items := item :: items } : Frame).All holds ↔
      item.parts.all holds = true ∧ ({ frame with items := items } : Frame).All holds :=
  ⟨fun all => ⟨all.items _ (List.mem_cons_self ..), all.branches,
    fun other found => all.items other (List.mem_cons_of_mem _ found)⟩,
    fun all => ⟨all.2.branches, List.forall_mem_cons.2 ⟨all.1, all.2.items⟩⟩⟩

end Frame

namespace Reader

variable {reader next : Reader} {position : Nat} {lexeme : Lexeme}

/-- What a closed group holds is tame if it adds what is tame. -/
theorem tame_of_closedItem (tame : reader.closedItem.parts.all isTame = true) :
    reader.frame.All isTame := by
  rw [← Frame.all_expr spreads_isTame]
  cases kind : reader.frame.kind with
  | whole | plain =>
    simp only [closedItem, kind] at tame
    exact (spreads_isTame.sequence _).trans tame
  | capture _ | flagged _ | atomic | ahead _ | behind _ _ =>
    simp only [closedItem, kind, Item.parts, List.all_cons, List.all_nil, Bool.and_true] at tame
    exact tame
  | conditional index =>
    cases branches : reader.frame.branches <;>
      simp [closedItem, kind, branches, Item.parts, isTame, Expr.refersBack] at tame

/-- What a closed group adds has its bounds in order. -/
theorem ordered_closedItem (ordered : reader.frame.All isOrdered) :
    reader.closedItem.parts.all isOrdered = true := by
  have body := (Frame.all_expr spreads_isOrdered).2 ordered
  cases kind : reader.frame.kind with
  | whole | plain =>
    simp only [closedItem, kind]
    exact (Frame.all_parts spreads_isOrdered).2 ordered
  | capture _ | flagged _ | atomic | ahead _ | behind _ _ =>
    simp only [closedItem, kind, Item.parts, List.all_cons, List.all_nil, Bool.and_true]
    exact body
  | conditional index =>
    have branch := Frame.all_branch.2 ordered.items
    cases branches : reader.frame.branches with
    | nil =>
      simp only [closedItem, kind, branches, Item.parts, List.all_cons, List.all_nil,
        Bool.and_true, isOrdered, spreads_isOrdered.sequence, branch]
    | cons yes others =>
      have first := ordered.branches yes (by simp [branches])
      simp only [closedItem, kind, branches, Item.parts, List.all_cons, List.all_nil,
        Bool.and_true, isOrdered, spreads_isOrdered.sequence, first, branch]

end Reader

namespace Lexeme

variable {reader next : Reader} {position : Nat} {lexeme : Lexeme}

/-- What was there before a lexeme is tame if all is after it. -/
theorem tame_of_act (acts : lexeme.act position reader = some next) (tame : next.All isTame) :
    reader.All isTame := by
  obtain ⟨frame, outer⟩ := List.forall_mem_cons.1 tame
  -- Nothing that a lexeme takes into something larger is lost, so what is not tame stays so.
  cases lexeme with
  | part expr =>
    obtain rfl := Option.some.inj acts
    exact List.forall_mem_cons.2 ⟨(Frame.all_cons.1 frame).2, outer⟩
  | repetition least most appetite =>
    obtain ⟨item, items, cut, -, rfl⟩ := act_repetition_eq.1 acts
    obtain ⟨loop, others⟩ := Frame.all_cons.1 frame
    have body : item.parts.all isTame = true := by
      rw [← spreads_isTame.sequence]
      exact (Expr.isTame_loop.1 (by simpa [Item.parts] using loop)).1
    refine List.forall_mem_cons.2 ⟨⟨others.branches, ?_⟩, outer⟩
    rw [cut]
    exact List.forall_mem_cons.2 ⟨body, others.items⟩
  | bar =>
    obtain ⟨-, rfl⟩ := act_bar_eq.1 acts
    obtain ⟨branch, others⟩ := List.forall_mem_cons.1 frame.branches
    exact List.forall_mem_cons.2 ⟨⟨others, Frame.all_branch.1 branch⟩, outer⟩
  | opening head =>
    obtain rfl := Option.some.inj acts
    cases head <;> exact outer
  | capture =>
    obtain rfl := Option.some.inj acts
    exact outer
  | closing =>
    obtain ⟨outermost, others, inside, rfl⟩ := act_closing_eq.1 acts
    obtain ⟨item, around⟩ := Frame.all_cons.1 frame
    refine List.forall_mem_cons.2 ⟨Reader.tame_of_closedItem item, ?_⟩
    rw [inside]
    exact List.forall_mem_cons.2 ⟨around, outer⟩
  | comment =>
    obtain rfl := Option.some.inj acts
    exact tame

/-- After a lexeme whose bounds are in order all bounds are. -/
theorem ordered_of_act {left tokens : List Token} (spells : lexeme.Spells left tokens)
    (acts : lexeme.act position reader = some next) (ordered : reader.All isOrdered) :
    next.All isOrdered := by
  obtain ⟨frame, outer⟩ := List.forall_mem_cons.1 ordered
  have inside : ∀ kind start verbose,
      (reader.openFrame kind start verbose).All isOrdered := fun kind start verbose =>
    List.forall_mem_cons.2 ⟨⟨fun _ found => absurd found List.not_mem_nil,
      fun _ found => absurd found List.not_mem_nil⟩, ordered⟩
  -- Only a quantifier brings bounds along, and those are in order as it is spelled.
  cases spells with
  | part expr plain | set expr plain =>
    obtain rfl := Option.some.inj acts
    refine List.forall_mem_cons.2 ⟨Frame.all_cons.2 ⟨?_, frame⟩, outer⟩
    cases expr <;> first | rfl | exact absurd plain Bool.false_ne_true
  | repetition least most appetite bounds =>
    obtain ⟨item, items, cut, -, rfl⟩ := act_repetition_eq.1 acts
    have items := frame.items
    rw [cut] at items
    obtain ⟨body, others⟩ := List.forall_mem_cons.1 items
    refine List.forall_mem_cons.2 ⟨Frame.all_cons.2 ⟨?_, frame.branches, others⟩, outer⟩
    show ([Expr.loop least most appetite (.sequence item.parts)].all isOrdered) = true
    simp only [List.all_cons, List.all_nil, Bool.and_true, isOrdered, spreads_isOrdered.sequence,
      body, bounds]
  | bar =>
    obtain ⟨-, rfl⟩ := act_bar_eq.1 acts
    exact List.forall_mem_cons.2 ⟨⟨List.forall_mem_cons.2
      ⟨Frame.all_branch.2 frame.items, frame.branches⟩,
      fun _ found => absurd found List.not_mem_nil⟩, outer⟩
  | opening head =>
    obtain rfl := Option.some.inj acts
    cases head <;> exact inside _ _ _
  | capture =>
    obtain rfl := Option.some.inj acts
    exact inside _ _ _
  | closing =>
    obtain ⟨outermost, others, around, rfl⟩ := act_closing_eq.1 acts
    rw [around] at outer
    obtain ⟨first, others⟩ := List.forall_mem_cons.1 outer
    exact List.forall_mem_cons.2
      ⟨Frame.all_cons.2 ⟨Reader.ordered_closedItem frame, first⟩, others⟩
  | comment =>
    obtain rfl := Option.some.inj acts
    exact ordered

end Lexeme

namespace Lexed

variable {property : Scan → Prop} {last reader : Reader} {position : Nat} {tokens : List Token}

/-- All that a reader holds is tame if what it ends with is. -/
theorem tame (run : Lexed property last reader position tokens) (tame : last.All isTame) :
    reader.All isTame := by
  induction run with
  | done => exact tame
  | step _ acts _ _ _ ih => exact Lexeme.tame_of_act acts ih

/-- What a reader ends with has its bounds in order if all that it holds has. -/
theorem ordered (run : Lexed property last reader position tokens)
    (ordered : reader.All isOrdered) : last.All isOrdered := by
  induction run with
  | done => exact ordered
  | step spells acts _ _ _ ih => exact ih (Lexeme.ordered_of_act spells acts ordered)

end Lexed

end RoutePattern.Regex
