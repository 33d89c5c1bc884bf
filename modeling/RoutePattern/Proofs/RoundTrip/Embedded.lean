import RoutePattern.Proofs.Between.Matching

/-!
# Values embedded in literal text

A parameter in the middle of literal text gives back the value that a path is resolved with, unless
the text in front of it ends in a point and the value holds one (`params_resolve_embedded`). The
parameter takes that point for its lead and ends at the next one, so that the path is not matched.
-/
namespace RoutePattern

open Regex Regex.Reader

/-- Text in front of a parameter: it starts with a single slash, and holds slashes, points, hyphens
and letters and digits of ASCII. -/
structure IsFront (text : Text) : Prop where
  single : ∃ rest, text = '/' :: rest ∧ rest.head? ≠ some '/'
  signs : ∀ c ∈ text, c.isAlphanum = true ∨ c ∈ ['/', '.', '-']

/-- Text after a parameter: none, or a hyphen or a point and letters of ASCII. -/
def IsBack (text : Text) : Prop :=
  text = [] ∨ ∃ sign letters, text = sign :: letters ∧ (sign = '-' ∨ sign = '.') ∧
    ∀ c ∈ letters, c.isAlpha = true

/-- A slash or point at the end of a text. -/
def lastLead (text : Text) : Option Char := text.getLast?.filter fun c => c == '/' || c == '.'

/-- A parameter after a colon in the middle of literal text. -/
def embedded (front name back : Text) : Between where
  before := if (lastLead front).isSome then front.dropLast else front
  lead := lastLead front
  name := name
  regex := standardRegex (lastLead front)
  converter := standardConverter
  after := back

section Texts

variable {front name back : Text}

/-- A text after a parameter holds letters, points and hyphens. -/
theorem IsBack.signs (isBack : IsBack back) :
    ∀ c ∈ back, (c.isAlphanum = true ∨ c ∈ ['/', '.', '-']) ∧ c ≠ '/' := by
  intro c found
  rcases isBack with rfl | ⟨sign, letters, rfl, known, alpha⟩
  · exact absurd found List.not_mem_nil
  · rcases List.mem_cons.1 found with rfl | found
    · rcases known with rfl | rfl <;> decide
    · have letter := alpha c found
      have alphanum : c.isAlphanum = true := Bool.or_eq_true_iff.2 (.inl letter)
      refine ⟨.inl alphanum, ?_⟩
      rintro rfl
      exact absurd letter (by decide)

/-- A text after a parameter ends its name. -/
theorem IsBack.endsName (isBack : IsBack back) : EndsName back := by
  intro c found
  rcases isBack with rfl | ⟨sign, letters, rfl, known, -⟩
  · exact absurd found (by simp)
  · obtain rfl : sign = c := Option.some.inj found
    rcases known with rfl | rfl <;> decide

/-- The text in front of a parameter is cut at its lead. -/
theorem embedded_front (front name back : Text) : (embedded front name back).front = front := by
  rw [Between.front, embedded]
  rcases List.eq_nil_or_concat front with rfl | ⟨init, c, rfl⟩
  · rfl
  · rw [List.concat_eq_append]
    by_cases sign : (c == '/' || c == '.') = true
    · have lead : lastLead (init ++ [c]) = some c := by
        rw [lastLead, List.getLast?_concat, Option.filter_some, if_pos sign]
      simp [lead]
    · have lead : lastLead (init ++ [c]) = none := by
        rw [lastLead, List.getLast?_concat, Option.filter_some, if_neg sign]
      simp [lead]

/-- The lead of a parameter is a slash or a point. -/
theorem isLead_lastLead (text : Text) : IsLead (lastLead text) := by
  unfold lastLead
  cases text.getLast? with
  | none => exact .inl rfl
  | some c =>
    rw [Option.filter_some]
    split
    · next sign =>
      rcases Bool.or_eq_true_iff.1 sign with slash | point
      · exact .inr (.inl (congrArg some (beq_iff_eq.1 slash)))
      · exact .inr (.inr (congrArg some (beq_iff_eq.1 point)))
    · exact .inl rfl

/-- A parameter in the middle of literal text is read as such. -/
theorem isReadable_embedded (isFront : IsFront front) (isBack : IsBack back) (name : Text) :
    (embedded front name back).IsReadable where
  before := by
    intro c found
    have inside : c ∈ front := by
      unfold embedded at found
      simp only at found
      split at found
      · exact List.dropLast_subset _ found
      · exact found
    have signs := of_isAlphanum_or_sign (isFront.signs c inside)
    exact ⟨signs.1, signs.2.1⟩
  lead := isLead_lastLead front
  -- Without a lead the last character in front is no sign that would be one.
  lone := by
    intro none c last
    have unled : lastLead front = Option.none := none
    have here : c ∈ front.getLast? := by
      unfold embedded at last
      rw [unled] at last
      exact last
    rw [lastLead, Option.mem_def.1 here, Option.filter_some] at unled
    split at unled
    · exact absurd unled (by simp)
    · next sign => simpa using sign
  after := by
    intro c found
    have signs := of_isAlphanum_or_sign (isBack.signs c found).1
    exact ⟨signs.1, signs.2.1⟩
  ends := isBack.endsName

end Texts

/-! ## Paths -/

section Paths

variable {front back : Text}

/-- A point stands for itself in a component, and nothing else is written with one. -/
theorem Percent.point_mem_encode_iff {text : Text} : '.' ∈ encode text ↔ '.' ∈ text := by
  have digits : ∀ digit < 16, Text.upperHexDigit digit ≠ '.' := by decide
  constructor
  · intro found
    obtain ⟨c, member, inside⟩ := List.mem_flatMap.1 found
    unfold encodeChar at inside
    split at inside
    · rwa [List.mem_singleton.1 inside]
    · obtain ⟨octet, known, written⟩ := List.mem_flatMap.1 inside
      have small := Utf8.encode_lt c octet known
      simp only [escape, List.mem_cons, List.not_mem_nil, or_false] at written
      rcases written with same | same | same
      · exact absurd same (by decide)
      · exact absurd same.symm (digits _ (by omega))
      · exact absurd same.symm (digits _ (by omega))
  · intro found
    exact List.mem_flatMap.2 ⟨'.', found, List.mem_singleton.2 rfl⟩

/-- A text after a parameter does not break a path. -/
theorem IsBack.not_mem (isBack : IsBack back) {c : Char} (broken : c ∈ pathBreaks) : c ∉ back := by
  intro found
  obtain ⟨known, other⟩ := isBack.signs c found
  obtain ⟨-, -, inside, oneLine⟩ := of_isAlphanum_or_sign known
  simp only [pathBreaks, List.mem_cons, List.not_mem_nil, or_false] at broken
  rcases broken with rfl | rfl | rfl | rfl
  · exact other rfl
  · exact absurd inside (by decide)
  · exact absurd inside (by decide)
  · exact oneLine rfl

/-- An encoded value in front of such a text does not break a path. -/
theorem IsBack.not_mem_encode_append (isBack : IsBack back) (value : Text) {c : Char}
    (broken : c ∈ pathBreaks) : c ∉ Percent.encode value ++ back := by
  intro found
  rcases List.mem_append.1 found with here | after
  · exact Percent.not_mem_encode_of_break broken value here
  · exact isBack.not_mem broken after

/-- A path that goes on after its literal text in one segment is normal. -/
theorem IsFront.isNormal (isFront : IsFront front) {rest : Text} (given : rest ≠ [])
    (free : ∀ c ∈ pathBreaks, c ∉ rest) : IsNormal (front ++ rest) where
  first := by
    obtain ⟨text, rfl, -⟩ := isFront.single
    rfl
  single := by
    obtain ⟨text, rfl, other⟩ := isFront.single
    rw [List.cons_append, two_prefix_cons_iff, List.head?_append]
    intro slash
    cases start : text.head? with
    | some c =>
      rw [start] at slash other
      exact other slash
    | none =>
      rw [start, Option.none_or] at slash
      exact free '/' (by decide) (List.mem_of_mem_head? slash)
  last := by
    rw [List.getLast?_append_of_ne_nil _ given]
    exact fun slash => absurd (List.mem_of_getLast? slash) (free '/' (by decide))
  inside := by
    intro c found
    rcases List.mem_append.1 found with first | second
    · exact (of_isAlphanum_or_sign (isFront.signs c first)).2.2.1
    · exact (inUrl_of_not_mem_pathBreaks fun broken => free c broken second).2

end Paths

section Leads

variable {front : Text}

/-- A point has no case. -/
theorem caseMatters_point (flags : Flags) : caseMatters flags '.'.toNat = false := by
  have unicode : Unicode.hasCase '.'.toNat = false := by decide
  have ascii : Unicode.isAsciiLetter '.'.toNat = false := by decide
  rw [caseMatters, unicode, ascii, ite_self, Bool.and_false]

/-- A lead stands for itself alone, whatever the case is. -/
theorem sameCode_lead {lead : Option Char} (known : IsLead lead) (flags : Flags) (c : Char) :
    sameCode flags (lead.getD '/').toNat c.toNat = true ↔ c = lead.getD '/' := by
  have caseless : caseMatters flags (lead.getD '/').toNat = false := by
    rcases known with rfl | rfl | rfl
    · exact caseMatters_slash flags
    · exact caseMatters_slash flags
    · exact caseMatters_point flags
  rw [sameCode_of_caseless (.inl caseless), beq_iff_eq, Char.toNat_inj, eq_comm]

/-- A parameter ends at a point exactly if the text in front of it does. -/
theorem getD_lastLead_eq_point_iff :
    (lastLead front).getD '/' = '.' ↔ front.getLast? = some '.' := by
  unfold lastLead
  cases front.getLast? with
  | none => simp
  | some c =>
    rw [Option.filter_some]
    split
    · simp
    · next sign =>
      refine iff_of_false (by simp) ?_
      intro same
      exact sign (by simp [Option.some.inj same])

/-- A parameter ends at a slash unless it ends at a point. -/
theorem getD_lastLead_of_ne (other : front.getLast? ≠ some '.') :
    (lastLead front).getD '/' = '/' := by
  have point := mt getD_lastLead_eq_point_iff.1 other
  rcases isLead_lastLead front with lead | lead | lead
  · rw [lead]
    rfl
  · rw [lead]
    rfl
  · rw [lead] at point
    exact absurd rfl point

/-- An encoded value holds the character that ends the parameter exactly if that is a point and the
value holds one. -/
theorem exists_lead_mem_encode_iff (flags : Flags) (front value : Text) :
    (∃ c ∈ Percent.encode value,
        sameCode flags ((lastLead front).getD '/').toNat c.toNat = true) ↔
      front.getLast? = some '.' ∧ '.' ∈ value := by
  have lead := isLead_lastLead front
  constructor
  · rintro ⟨c, found, same⟩
    obtain rfl := (sameCode_lead lead flags c).1 same
    by_cases point : front.getLast? = some '.'
    · rw [getD_lastLead_eq_point_iff.2 point] at found
      exact ⟨point, Percent.point_mem_encode_iff.1 found⟩
    · rw [getD_lastLead_of_ne point] at found
      exact absurd found (Percent.not_mem_encode (by decide) (by decide) value)
  · rintro ⟨point, inside⟩
    have same := (sameCode_lead lead flags '.').2 (getD_lastLead_eq_point_iff.2 point).symm
    exact ⟨'.', Percent.point_mem_encode_iff.2 inside, same⟩

end Leads

/-- A pattern with a parameter in the middle of literal text makes a route. -/
theorem exists_make_embedded {front name back : Text} (isFront : IsFront front)
    (isBack : IsBack back) (named : name ≠ [] ∧ ∀ c ∈ name, isNameChar c = true)
    (settings : Settings) (label : Text) :
    ∃ route source,
      Route.make (.pattern (front ++ ':' :: (name ++ back))) settings label = .ok route ∧
      route.settings = settings ∧ route.tokens? = some (embedded front name back).tokens ∧
      (embedded front name back).Compiles route source
        (shortestBut ((lastLead front).getD '/')) := by
  have readable := isReadable_embedded isFront isBack name
  have cut : tokenize settings.options.converters
      ((embedded front name back).front ++ ':' :: (name ++ back)) =
        .ok (embedded front name back).tokens :=
    readable.tokenize_colon named.1 named.2 rfl rfl
  rw [embedded_front] at cut
  have slashless : '/' ∉ back := isBack.not_mem (by decide)
  have last : (front ++ ':' :: (name ++ back)).getLast? ≠ some '/' := by
    rw [List.getLast?_append_of_ne_nil _ (by simp)]
    intro slash
    rcases List.mem_cons.1 (List.mem_of_getLast? slash) with colon | found
    · exact absurd colon (by decide)
    · rcases List.mem_append.1 found with inName | inBack
      · exact absurd (named.2 '/' inName) (by decide)
      · exact slashless inBack
  have reads := reads_standardRegex (isLead_lastLead front)
  have bare : (embedded front name back).regex.head? ≠ some '?' := by
    simp [embedded, standardRegex]
  exact Between.exists_make cut reads bare rfl
    (fun slash => slashless (List.mem_of_getLast? slash)) last label

/-- A parameter in the middle of literal text gives back the value that a path is resolved with,
unless the text in front of it ends in a point and the value holds a point. Such a value is resolved
to a path that is not matched. -/
theorem params_resolve_embedded {front name back value : Text} {settings : Settings}
    {entries : List (Datum × Datum)} (isFront : IsFront front) (isBack : IsBack back)
    (named : name ≠ [] ∧ ∀ c ∈ name, isNameChar c = true) (given : value ≠ [])
    (plain : settings.options.converters = Table.empty)
    (looked : Datum.lookup entries name = some (.text value)) (label : Text) :
    ∃ route resolved,
      Route.make (.pattern (front ++ ':' :: (name ++ back))) settings label = .ok route ∧
      route.resolve (.dict entries) .null [] = .ok resolved ∧
      (¬ (front.getLast? = some '.' ∧ '.' ∈ value) → ∀ convert, ∃ params,
        route.params resolved convert = .ok params ∧
        params.named.get? name = some (.text value)) ∧
      (front.getLast? = some '.' ∧ '.' ∈ value → ∀ convert,
        route.params resolved convert = .error (.noMatch route.name resolved)) := by
  obtain ⟨route, source, made, rfl, tokens, compiles⟩ :=
    exists_make_embedded isFront isBack named settings label
  have free (c : Char) (broken : c ∈ pathBreaks) : c ∉ Percent.encode value ++ back :=
    isBack.not_mem_encode_append value broken
  have slashless := free '/' (by decide)
  have oneLine := free '\n' (by decide)
  have full : Percent.encode value ++ back ≠ [] := by simp [Percent.encode_ne_nil given]
  have normal := isFront.isNormal full free
  have front_ne : (embedded front name back).front ≠ [] := by
    obtain ⟨rest, same, -⟩ := isFront.single
    rw [embedded_front, same]
    simp
  have resolved := Between.resolve_eq tokens given looked
    (encodeSegment_text (.colon .once) value) front_ne
  have path := List.append_ne_nil_of_left_ne_nil front_ne (Percent.encode value ++ back)
  have searched : route.find ((embedded front name back).front ++ (Percent.encode value ++ back)) =
      ((embedded front name back).program route.settings.options source
        (shortestBut ((lastLead front).getD '/'))).find
          ((embedded front name back).front ++ (Percent.encode value ++ back)) := by
    rw [compiles.find_eq, embedded_front, normal.normalize_eq]
  have ends := exists_lead_mem_encode_iff route.settings.options.flags front value
  -- Encoding writes no slash and keeps every point, so what is written can run into the lead only
  -- if this is a point.
  refine ⟨route, _, made, resolved, fun unheld convert => ?_, fun held convert => ?_⟩
  · have other : ∀ c ∈ Percent.encode value, sameCode route.settings.options.flags
        ((lastLead front).getD '/').toNat c.toNat = false :=
      fun c found => eq_false_of_ne_true fun same => unheld (ends.1 ⟨c, found, same⟩)
    obtain ⟨found, matched, captures⟩ := (embedded front name back).find_shortest
      route.settings.options (Percent.encode_ne_nil given) slashless oneLine other source
    have converted : route.converters.convert standardConverter value = .ok (.text value) := by
      rw [Route.converters, plain]
      rfl
    exact compiles.params_of_find converted path (searched.trans matched) captures
      (Percent.decode_encode value) convert
  · obtain ⟨c, inside, same⟩ := ends.2 held
    have missed := (embedded front name back).find_shortest_eq_none route.settings.options
      slashless oneLine inside same source
    exact Between.params_of_find_eq_none path (searched.trans missed) convert

/-- A value that holds the text after it comes back. After a point, a value with a point does
not. -/
theorem params_resolve_embedded_release :
    ∃ route resolved params,
      Route.make (.pattern "/app-v2.:patch-rc".toList) Settings.standard [] = .ok route ∧
      route.resolve (.dict [(.text "patch".toList, .text "1-rc/é".toList)]) .null [] =
        .ok resolved ∧
      route.params resolved true = .ok params ∧
      params.named.get? "patch".toList = some (.text "1-rc/é".toList) ∧
    ∃ pointed missed, Route.make (.pattern "/app-v2.:patch-rc".toList) Settings.standard [] =
        .ok pointed ∧
      pointed.resolve (.dict [(.text "patch".toList, .text "1.5".toList)]) .null [] = .ok missed ∧
      pointed.params missed true = .error (.noMatch pointed.name missed) := by
  have isFront : IsFront "/app-v2.".toList :=
    ⟨⟨"app-v2.".toList, by decide, by decide⟩, Text.forall_mem_iff_all.2 (by decide)⟩
  have isBack : IsBack "-rc".toList :=
    .inr ⟨'-', "rc".toList, by decide, .inl rfl, Text.forall_mem_iff_all.2 (by decide)⟩
  have named : "patch".toList ≠ [] ∧ ∀ c ∈ "patch".toList, isNameChar c = true :=
    ⟨by decide, Text.forall_mem_iff_all.2 (by decide)⟩
  have plain : Settings.standard.options.converters = Table.empty := rfl
  have looked (value : Text) : Datum.lookup [(.text "patch".toList, .text value)] "patch".toList =
      some (.text value) := rfl
  have full : "1-rc/é".toList ≠ [] := by decide
  have pointed : "1.5".toList ≠ [] := by decide
  obtain ⟨route, resolved, made, written, back, -⟩ :=
    params_resolve_embedded isFront isBack named full plain (looked _) []
  obtain ⟨params, parsed, value⟩ := back (by decide) true
  obtain ⟨other, missed, made', written', -, refused⟩ :=
    params_resolve_embedded isFront isBack named pointed plain (looked _) []
  exact ⟨route, resolved, params, made, written, parsed, value, other, missed, made', written',
    refused (by decide) true⟩

end RoutePattern
