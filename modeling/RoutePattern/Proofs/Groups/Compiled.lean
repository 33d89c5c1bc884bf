import RoutePattern.Proofs.Groups.Tokens
import RoutePattern.Proofs.Reading.Ground

/-!
# The groups of a compiled pattern

A pattern compiles only if its regular expression has as many groups as it has placeholders. If the
parentheses of every placeholder are those of a group, then these groups are all there are
(`row_of_compilePattern`).
-/
namespace RoutePattern

open Regex
open Regex.Scan (Captures facing)

/-- The source of the regular expression of a row of tokens. -/
def patternSource (options : Options) (tokens : List PatternToken) : Text :=
  '^' :: routeSource options tokens

/-- The parentheses of every placeholder are those of a group. -/
def Grouped (options : Options) (tokens : List PatternToken) : Prop :=
  ∀ places ∈ groupPlaces 1 tokens, ∃ index,
    Captures (patternSource options tokens) options.flags index places

/-- The parentheses of the placeholders are those of the groups from the first on, in order. -/
def Numbered (options : Options) (tokens : List PatternToken) : Prop :=
  ∀ index places, (groupPlaces 1 tokens)[index]? = some places →
    Captures (patternSource options tokens) options.flags (index + 1) places

/-- Groups with numbers are groups. -/
theorem Numbered.grouped {options : Options} {tokens : List PatternToken}
    (numbered : Numbered options tokens) : Grouped options tokens := by
  intro places found
  obtain ⟨index, place⟩ := List.mem_iff_getElem?.1 found
  exact ⟨index + 1, numbered index places place⟩

/-- The start of the text is read before the route. -/
theorem reaches_opening (options : Options) (tokens : List PatternToken) :
    (Scan.start (patternSource options tokens) options.flags).Reaches
      (facing ((Reader.start options.flags).append [.anchor .lineStart]) 1
        (routeSource options tokens)) := by
  obtain ⟨others, -, front⟩ := exists_routeFront tokens
  have unsigned : StartsUnsigned (routeSource options tokens) := by
    rw [routeSource_eq, ← front]
    exact startsUnsigned_sources others (startsUnsigned_final options (endsInSlash tokens))
  exact reaches_parts Reader.Reads.start _ 0 _ unsigned

/-- The reader at the end of the front of a pattern, where every placeholder has its group. -/
theorem exists_front {options : Options} {tokens : List PatternToken}
    (grouped : Grouped options tokens) :
    ∃ parts middle, Extends (placeholders tokens) parts (Reader.start options.flags) middle ∧
      (Scan.start (patternSource options tokens) options.flags).Reaches
        (facing middle (1 + (routeFront tokens).length)
          (finalSource options (endsInSlash tokens))) ∧
      (middle.widths.length = (placeholders tokens).length → Numbered options tokens) := by
  obtain ⟨others, same, front⟩ := exists_routeFront tokens
  have unsigned := startsUnsigned_final options (endsInSlash tokens)
  have start : Extends [] [.anchor .lineStart] (Reader.start options.flags) _ :=
    .ofPlain (by decide) _
  have opening := reaches_opening options tokens
  rw [routeSource_eq, ← front] at opening
  have older : ∀ frame ∈ (Reader.start options.flags).frame :: (Reader.start options.flags).outer,
      frame.start < 1 := by simp [Reader.start]
  obtain ⟨parts, middle, growth, reaches, numbered⟩ := exists_extends others unsigned opening
    (start.older older (Nat.le_refl _)) (by rw [same.places]; exact grouped)
  have all := start.trans growth
  rw [List.nil_append, same.placeholders] at all
  rw [same.places, same.placeholders] at numbered
  rw [front] at reaches
  refine ⟨_, middle, all, reaches, fun count => ?_⟩
  have none : ((Reader.start options.flags).append [.anchor .lineStart]).widths.length = 0 := rfl
  rw [none] at numbered
  intro index places place
  have captured := numbered (by rw [Nat.zero_add]; exact count) index places place
  rw [Nat.zero_add] at captured
  exact captured

/-- The reader at the end of the source of a pattern, where every placeholder has its group. -/
theorem exists_last {options : Options} {tokens : List PatternToken}
    (grouped : Grouped options tokens) :
    ∃ parts last place, Extends (placeholders tokens) parts (Reader.start options.flags) last ∧
      (Scan.start (patternSource options tokens) options.flags).Reaches (facing last place []) ∧
      (last.widths.length = (placeholders tokens).length → Numbered options tokens) := by
  obtain ⟨parts, middle, growth, reaches, numbered⟩ := exists_front grouped
  have closing := reaches_parts (reads_final options (endsInSlash tokens)) middle
    (1 + (routeFront tokens).length) [] (by decide)
  rw [List.append_nil] at closing
  have all := growth.trans (.ofPlain (plain_final options (endsInSlash tokens)) middle)
  rw [List.append_nil] at all
  exact ⟨_, _, _, all, reaches.trans closing, numbered⟩

/-- A pattern that compiles is a row of tokens with as many keys as there are groups. -/
theorem compilePattern_ok {options : Options} {pattern : Text} {compiled : CompiledPath}
    (found : compilePattern options pattern = .ok compiled) :
    ∃ tokens, tokenize options.converters pattern = .ok tokens ∧
      compiled.keys = tokens.filterMap PatternToken.key? ∧
      compiled.program.groups = compiled.keys.length ∧
      Program.compile (patternSource options tokens) options.flags = .ok compiled.program := by
  unfold compilePattern at found
  cases read : tokenize options.converters pattern with
  | error failure => simp [read, Except.mapError, bind, Except.bind] at found
  | ok tokens =>
    cases compilation : Program.compile ('^' :: routeSource options tokens) options.flags with
    | error refusal => simp [read, compilation, Except.mapError, bind, Except.bind] at found
    | ok program =>
      simp only [read, compilation, Except.mapError, bind, Except.bind] at found
      split at found
      · next count =>
        obtain rfl := Except.ok.inj found
        exact ⟨tokens, rfl, rfl, count, compilation⟩
      · exact absurd found (by simp)

/-- What a compiled program knows of the reader at the end of its source. -/
structure CompiledFrom (program : Program) (last : Reader) : Prop where
  expr : program.expr = last.frame.expr
  groups : program.groups = last.widths.length
  names : program.names = last.names
  flags : program.flags = last.flags
  outer : last.outer = []

/-- A source that is read is scanned to its end. -/
theorem exists_final {scan : Scan} {last : Reader}
    (read : Reader.readTokens scan.tokens scan.skip scan.position scan.reader = .ok last) :
    ∃ final, scan.Reaches final ∧ final.tokens = [] := by
  obtain ⟨reader, tokens, skip, position⟩ := scan
  induction tokens generalizing reader skip position with
  | nil => exact ⟨_, .refl, rfl⟩
  | cons token tokens ih =>
    have sound : token ≠ .dangling := by
      rintro rfl
      exact absurd read (by simp [Reader.readTokens])
    cases skip with
    | succ skip =>
      rw [Reader.readTokens] at read
      · obtain ⟨final, reaches, done⟩ := ih _ _ _ read
        exact ⟨final, .head (Scan.next?_passed sound) reaches, done⟩
      · exact fun same => sound same
    | zero =>
      rw [Reader.readTokens] at read
      · obtain ⟨⟨next, cursor⟩, taken, rest⟩ := exists_of_bind read
        obtain ⟨final, reaches, done⟩ := ih _ _ _ rest
        exact ⟨final, .head (Scan.next?_taking sound taken) reaches, done⟩
      · exact fun same => sound same

/-- A source that compiles is scanned to its end. -/
theorem exists_final_of_compile {source : Text} {flags : Flags} {program : Program}
    (compilation : Program.compile source flags = .ok program) :
    ∃ final, (Scan.start source flags).Reaches final ∧ final.tokens = [] := by
  obtain ⟨last, read, -⟩ := exists_of_bind compilation
  exact exists_final (show Reader.readTokens (Scan.start source flags).tokens _ _ _ = _ from read)

/-- A program is compiled from the reader of the scan that has reached the end of its source. -/
theorem compile_of_final {source : Text} {flags : Flags} {program : Program} {final : Scan}
    (compilation : Program.compile source flags = .ok program)
    (reaches : (Scan.start source flags).Reaches final) (done : final.tokens = []) :
    CompiledFrom program final.reader := by
  have reading : Reader.readTokens (Token.ofText source) 0 0 (Reader.start flags) =
      final.reader.finish := by
    have whole := Scan.readTokens_of_reaches reaches
    rw [done] at whole
    exact whole
  obtain ⟨reader, read, made⟩ := exists_of_bind compilation
  obtain ⟨rfl, outer⟩ := Reader.eq_of_finish (reading.symm.trans read)
  unfold Program.ofReader at made
  simp only at made
  split at made
  · exact absurd made (by simp)
  · split at made
    · obtain rfl := Except.ok.inj made
      exact ⟨rfl, rfl, rfl, rfl, outer⟩
    · exact absurd made (by simp)

/-- A program is compiled from the reader at the end of its source. -/
theorem compile_of_reaches {source : Text} {flags : Flags} {program : Program} {last : Reader}
    {place : Nat} (compilation : Program.compile source flags = .ok program)
    (reaches : (Scan.start source flags).Reaches (facing last place [])) :
    CompiledFrom program last := compile_of_final compilation reaches rfl

/-- Where the parentheses of every placeholder are those of a group, the expression of a pattern
that compiles is a row with one group for each placeholder, and only a placeholder whose group
begins with a question mark gives a group a name. -/
theorem row_of_compilePattern {options : Options} {compiled : CompiledPath}
    {tokens : List PatternToken} (keys : compiled.keys = tokens.filterMap PatternToken.key?)
    (count : compiled.program.groups = compiled.keys.length)
    (compilation : Program.compile (patternSource options tokens) options.flags =
      .ok compiled.program) (grouped : Grouped options tokens) :
    Numbered options tokens ∧
      (∃ parts, compiled.program.expr = .sequence parts ∧ Row 0 parts compiled.program.groups) ∧
      (compiled.program.names = [] ↔ ∀ placeholder ∈ placeholders tokens, placeholder.IsBare) := by
  obtain ⟨parts, last, place, growth, reaches, numbered⟩ := exists_last grouped
  obtain ⟨expr, groups, names, -, -⟩ := compile_of_reaches compilation reaches
  have all : last.widths.length = (placeholders tokens).length := by
    rw [← groups, count, keys, keys_eq, List.length_map]
  have none : (Reader.start options.flags).widths.length = 0 := rfl
  obtain ⟨row, bare⟩ := growth.quiet (by rw [none, Nat.zero_add]; exact all)
  have whole : last.frame.parts = parts := by
    rw [growth.frame]
    exact Reader.frame_parts_append (Reader.start options.flags) parts rfl rfl
  refine ⟨numbered all, ⟨parts, ?_, groups ▸ row⟩, fun unnamed placeholder found => ?_,
    fun each => ?_⟩
  · rw [expr, Frame.expr, whole]
  · by_contra marked
    exact growth.marked placeholder found marked (names.symm.trans unnamed)
  · rw [names]
    exact bare each

/-!
## What is known where the front of a route ends

The end of a route is read in whatever state the front has left the reader. Where the route compiles,
no parenthesis is open there, so that the parts of the end join the last branch of the expression
(`compiled_of_front`), and the flags are still those that the options ask for.
-/

open Regex.Reader (Reads)

/-- More parts join the branch that is being read. -/
theorem Regex.Reader.branch_append (reader : Reader) (parts : List Expr) :
    (reader.append parts).frame.branch = reader.frame.branch ++ parts := by
  simp [Reader.append, Frame.branch, List.flatMap_map, Item.parts]

variable {options : Options} {tokens : List PatternToken}

/-- Once the start of the text has been read, the flags of a route hold for good. -/
theorem begun_of_reaches {scan : Scan}
    (reaches : (Scan.start (patternSource options tokens) options.flags).Reaches scan)
    (later : 1 ≤ scan.position) : scan.reader.Begun options.flags := by
  have begun : ((Reader.start options.flags).append [.anchor .lineStart]).Begun options.flags :=
    ⟨rfl, rfl, rfl, .inl (List.cons_ne_nil _ _)⟩
  exact ((reaches_opening options tokens).of_le reaches later).begun begun

/-- All groups of a route that have been counted are open or held by an open group. -/
theorem counted_of_reaches {scan : Scan}
    (reaches : (Scan.start (patternSource options tokens) options.flags).Reaches scan) :
    scan.reader.Counted := by
  refine reaches.counted ⟨rfl, fun frame found index kind => ?_⟩
  rw [List.mem_singleton.1 found] at kind
  exact FrameKind.noConfusion kind

/-- The groups of an expression that has been read outside of all parentheses are all groups that
have been counted. -/
theorem Regex.Reader.groupCount_expr {reader : Reader} {flags : Flags} (counted : reader.Counted)
    (begun : reader.Begun flags) (outermost : reader.outer = []) :
    reader.frame.expr.groupCount = reader.widths.length := by
  have ground : reader.ground = reader.frame := by rw [Reader.ground, outermost, List.getLastD_nil]
  have whole : reader.frame.isCapture = false := by rw [Frame.isCapture, ← ground, begun.whole]
  have parts := reader.frame.groupCount_parts
  have count := counted.count
  rw [outermost, List.map_singleton, List.sum_singleton] at count
  rw [whole, count] at parts
  exact parts

/-- What a program knows of the reader in front of the end of its source, which is read as some
parts. -/
structure CompiledBefore (options : Options) (program : Program) (reader : Reader)
    (parts : List Expr) : Prop where
  flags : program.flags = options.flags
  expr : program.expr = .sequence (Expr.alternation (reader.frame.branches.reverse ++
    [reader.frame.branch ++ parts]))
  groups : program.expr.groupCount = program.groups

/-- The end of a route joins the last branch of the expression. -/
theorem compiled_of_front {program : Program} {reader : Reader} {ending : Text} {place : Nat}
    {parts : List Expr}
    (compilation : Program.compile (patternSource options tokens) options.flags = .ok program)
    (reads : Reads ending 0 fun _ => parts) (later : 1 ≤ place)
    (reaches : (Scan.start (patternSource options tokens) options.flags).Reaches
      (facing reader place ending)) : CompiledBefore options program reader parts := by
  have closing := reaches_parts reads reader place [] (by decide)
  rw [List.append_nil] at closing
  have last := reaches.trans closing
  obtain ⟨expr, groups, -, flags, outer⟩ := compile_of_reaches compilation last
  have begun := begun_of_reaches last (Nat.le_trans later (Nat.le_add_right ..))
  refine ⟨flags.trans begun.flags, ?_, ?_⟩
  · rw [expr, Frame.expr, Frame.parts, Reader.branch_append]
    rfl
  · rw [expr, groups]
    exact Reader.groupCount_expr (counted_of_reaches last) begun outer

end RoutePattern
