import RoutePattern.Proofs.Component

/-!
# Components that are decoded twice

A component inside a whole URL is decoded with the URL first, which keeps the escapes of its
delimiters, and then by itself. The first pass gives the text back with its delimiters guarded
(`decodeUri_encode_append`), and the second one decodes it as if they were not
(`decode_guarded`). So the text is decoded once more than it was encoded, and it is left as it is
exactly if it holds no escape of its own (`decode_eq_self_iff`).
-/
namespace RoutePattern.Percent

open Text

/-!
## Pieces of an escaped text

An escape is a percent sign with two hexadecimal digits after it, wherever these stand in a text
(`escape_mem_pieces_iff`). A character that is no such digit starts a new piece, so a text may be cut
in front of it before it is read (`pieces_append`).
-/

/-! ## Two digits in front -/

/-- Two hexadecimal digits come first in a text. -/
def hexAhead : Text → Bool
  | high :: low :: _ => isHex high && isHex low
  | _ => false

/-- A percent sign without two digits after it stands for itself. -/
theorem pieces_percent {rest : Text} (free : hexAhead rest = false) :
    pieces ('%' :: rest) = .plain '%' :: pieces rest := by
  cases rest with
  | nil => rfl
  | cons high rest =>
    cases rest with
    | nil => rfl
    | cons low rest =>
      have digits : ¬ (isHex high && isHex low) = true := by
        rw [show (isHex high && isHex low) = false from free]
        exact Bool.false_ne_true
      rw [pieces, if_neg digits]

/-- Two digits come first exactly if the first two characters are digits. -/
theorem hexAhead_cons (c : Char) (rest : Text) :
    hexAhead (c :: rest) = (isHex c && rest.head?.any isHex) := by
  cases rest with
  | nil => simp [hexAhead]
  | cons d rest => rfl

/-- Fewer than two characters are no two digits, also with a text after them that starts with none. -/
theorem hexAhead_append {text rest : Text} (short : ∀ high low more, text ≠ high :: low :: more)
    (stop : ∀ c ∈ rest.head?, isHex c = false) : hexAhead (text ++ rest) = false := by
  have none : rest.head?.any isHex = false := by
    cases first : rest.head? with
    | none => rfl
    | some c => exact stop c first
  match text, rest with
  | [], [] => rfl
  | [], c :: rest => rw [List.nil_append, hexAhead_cons, stop c rfl, Bool.false_and]
  | [c], rest => rw [List.singleton_append, hexAhead_cons, none, Bool.and_false]
  | high :: low :: more, _ => exact absurd rfl (short high low more)

/-- Fewer than two characters are no two digits. -/
theorem hexAhead_of_short {text : Text} (short : ∀ high low more, text ≠ high :: low :: more) :
    hexAhead text = false := by
  rw [← List.append_nil text]
  exact hexAhead_append short (by simp)

/-! ## Cutting a text -/

/-- A text is cut into pieces up to a character that is no hexadecimal digit, and from there on. -/
theorem pieces_append {rest : Text} (stop : ∀ c ∈ rest.head?, isHex c = false) (text : Text) :
    pieces (text ++ rest) = pieces text ++ pieces rest := by
  fun_induction pieces text with
  | case1 => rfl
  | case2 high low text hex ih =>
    simp only [List.cons_append]
    rw [pieces, if_pos hex, ih]
  | case3 high low text hex ih =>
    simp only [List.cons_append] at ih ⊢
    rw [pieces, if_neg hex, ih]
  | case4 c text short ih =>
    by_cases percent : c = '%'
    · subst percent
      have free : hexAhead (text ++ rest) = false :=
        hexAhead_append (fun high low more => short high low more rfl) stop
      rw [List.cons_append, pieces_percent free, ih]
      rfl
    · rw [List.cons_append, pieces_plain percent, ih]
      rfl

/-- The digits of an escape are hexadecimal. -/
theorem isHex_of_mem_pieces {text : Text} {high low : Char}
    (found : .escape high low ∈ pieces text) : isHex high = true ∧ isHex low = true := by
  fun_induction pieces text with
  | case1 => exact absurd found List.not_mem_nil
  | case2 one two text hex ih =>
    rcases List.mem_cons.1 found with same | found
    · obtain ⟨rfl, rfl⟩ := Piece.escape.inj same
      exact Bool.and_eq_true_iff.1 hex
    · exact ih found
  | case3 one two text hex ih =>
    exact ih (List.mem_of_ne_of_mem (by simp) found)
  | case4 c text short ih =>
    exact ih (List.mem_of_ne_of_mem (by simp) found)

/-- A plain piece is a character of the text. -/
theorem mem_of_plain_mem_pieces {text : Text} {c : Char} (found : .plain c ∈ pieces text) :
    c ∈ text := by
  rw [← flatMap_text_pieces text]
  exact List.mem_flatMap.2 ⟨_, found, List.mem_singleton_self c⟩

/-- The escapes of a text are its percent signs with two hexadecimal digits after them. -/
theorem escape_mem_pieces_iff {text : Text} {high low : Char} :
    .escape high low ∈ pieces text ↔
      isHex high = true ∧ isHex low = true ∧ ['%', high, low] <:+: text := by
  constructor
  · intro found
    obtain ⟨one, two⟩ := isHex_of_mem_pieces found
    obtain ⟨front, back, cut⟩ := List.append_of_mem found
    refine ⟨one, two, front.flatMap Piece.text, back.flatMap Piece.text, ?_⟩
    have whole := flatMap_text_pieces text
    rw [cut, List.flatMap_append, List.flatMap_cons, ← List.append_assoc] at whole
    exact whole
  · rintro ⟨one, two, front, back, rfl⟩
    have sign : ∀ c ∈ ('%' :: high :: low :: back).head?, isHex c = false := by
      intro c first
      obtain rfl := Option.some.inj first
      decide
    have digits : (isHex high && isHex low) = true := Bool.and_eq_true_iff.2 ⟨one, two⟩
    have cut : pieces ('%' :: high :: low :: back) = .escape high low :: pieces back := by
      rw [pieces, if_pos digits]
    rw [List.append_assoc]
    exact (pieces_append sign front).symm ▸
      List.mem_append_right _ (cut ▸ List.mem_cons_self ..)

end RoutePattern.Percent

namespace RoutePattern

namespace Utf8

/-- A decoder inside a character waits for an octet outside of ASCII. -/
def Awaits : State → Prop
  | .idle => True
  | .owing _ _ low _ => 0x80 ≤ low

/-- A character that has started waits for an octet outside of ASCII. -/
theorem awaits_start {octet : Nat} {state : State} (starts : start octet = some state) :
    Awaits state := by
  unfold start at starts
  repeat' split at starts
  any_goals
    obtain rfl := Option.some.inj starts
    exact Nat.le_of_ble_eq_true rfl
  exact absurd starts (by simp)

/-- Every octet between characters leaves the decoder waiting for one outside of ASCII. -/
theorem awaits_begin (octet : Nat) : Awaits (begin octet).2 := by
  unfold begin
  split
  · trivial
  · cases starts : start octet with
    | none => trivial
    | some state => exact awaits_start starts

/-- Every octet leaves the decoder waiting for an octet outside of ASCII. -/
theorem awaits_step (state : State) (octet : Nat) : Awaits (step state octet).2 := by
  cases state with
  | idle => exact awaits_begin octet
  | owing bits owed low high =>
    simp only [step]
    split
    · split
      · trivial
      · exact Nat.le_refl _
    · exact awaits_begin octet

/-- An octet of ASCII ends an unfinished character and is a character itself. -/
theorem step_of_awaits {state : State} (awaits : Awaits state) {octet : Nat} (ascii : octet < 0x80) :
    step state octet = (flush state ++ [Char.ofNat octet], .idle) := by
  cases state with
  | idle => exact step_ascii ascii
  | owing bits owed low high =>
    have outside : ¬ (low ≤ octet ∧ octet ≤ high) := fun inside =>
      Nat.not_lt_of_le (Nat.le_trans awaits inside.1) ascii
    simp only [step, if_neg outside, begin, if_pos ascii]
    rfl

/-- The text that an octet yields, with what is owed after it, is at most one character longer than
what was owed before. -/
theorem length_step_le (state : State) (octet : Nat) :
    (step state octet).1.length + (flush (step state octet).2).length ≤
      (flush state).length + 1 := by
  have begins : (begin octet).1.length + (flush (begin octet).2).length ≤ 1 := by
    unfold begin
    split
    · exact Nat.le_refl _
    · cases start octet with
      | none => exact Nat.le_refl _
      | some state => cases state <;> simp [flush]
  cases state with
  | idle => exact Nat.le_trans begins (by simp [flush])
  | owing bits owed low high =>
    simp only [step]
    split
    · split
      · simp [flush]
      · simp [flush]
    · simp only [flush, List.length_cons, List.length_nil] at begins ⊢
      omega

end Utf8

namespace Percent

open Text

/-- A character as a decoded URL shows it: a delimiter stays an escape. -/
def guardChar (c : Char) : Text := if c ∈ delimiters then escape c.toNat else [c]

/-- A text with its delimiters escaped. -/
def guarded (text : Text) : Text := text.flatMap guardChar

/-- No percent sign in a text has two hexadecimal digits after it. -/
def IsUnescaped (text : Text) : Prop :=
  ∀ high low, isHex high = true → isHex low = true → ¬ ['%', high, low] <:+: text

/-- A delimiter is guarded by its escape. -/
theorem guarded_cons_of_mem {c : Char} (delimiter : c ∈ delimiters) (rest : Text) :
    guarded (c :: rest) = escape c.toNat ++ guarded rest := by
  rw [guarded, List.flatMap_cons, guardChar, if_pos delimiter]
  rfl

/-- Any other character has no guard. -/
theorem guarded_cons_of_not_mem {c : Char} (other : c ∉ delimiters) (rest : Text) :
    guarded (c :: rest) = c :: guarded rest := by
  rw [guarded, List.flatMap_cons, guardChar, if_neg other]
  rfl

/-! ## The first pass -/

/-- The octets of delimiters are those of ASCII that the delimiters have. -/
theorem isDelimiter_iff {octet : Nat} :
    isDelimiter octet = true ↔ ∃ c ∈ delimiters, c.toNat = octet := by
  simp [isDelimiter]

/-- A delimiter is a character of ASCII. -/
theorem toNat_of_delimiter : ∀ c ∈ delimiters, c.toNat < 0x80 :=
  Text.forall_mem_iff_all.2 (by decide)

/-- The octets of any other character are not kept. -/
theorem isDelimiter_of_mem_encode {c : Char} (other : c ∉ delimiters) :
    ∀ octet ∈ Utf8.encode c.toNat, isDelimiter octet = false := by
  intro octet found
  rw [Bool.eq_false_iff]
  intro kept
  obtain ⟨d, delimiter, rfl⟩ := isDelimiter_iff.1 kept
  rcases Utf8.eq_or_le_of_mem_encode found with same | high
  · obtain rfl : d = c := Char.toNat_inj.1 same
    exact other delimiter
  · exact absurd (toNat_of_delimiter d delimiter) (Nat.not_lt.2 high)

/-- A delimiter is always encoded. -/
theorem encodeChar_delimiter : ∀ c ∈ delimiters, encodeChar c = escape c.toNat :=
  Text.forall_mem_iff_all.2 (by decide)

/-- A character of a component is decoded with its URL to its guarded form. -/
theorem decodeUri_encodeChar (c : Char) (rest : Text) :
    decodeUri (encodeChar c ++ rest) = guardChar c ++ decodeUri rest := by
  unfold decodeUri guardChar
  by_cases delimiter : c ∈ delimiters
  · have small : c.toNat < 256 := Nat.lt_trans (toNat_of_delimiter c delimiter) (by decide)
    have kept : isDelimiter c.toNat = true := isDelimiter_iff.2 ⟨c, delimiter, rfl⟩
    rw [if_pos delimiter, encodeChar_delimiter c delimiter, pieces_escape small, decodeFrom,
      octet_escape small, if_pos kept]
    rfl
  · rw [if_neg delimiter]
    exact decodeFrom_encodeChar (isDelimiter_of_mem_encode delimiter) rest

/-- A component is decoded with its URL to its guarded text, whatever follows it. -/
theorem decodeUri_encode_append (text rest : Text) :
    decodeUri (encode text ++ rest) = guarded text ++ decodeUri rest := by
  induction text with
  | nil => rfl
  | cons c text ih =>
    rw [encode, List.flatMap_cons, List.append_assoc, decodeUri_encodeChar, guarded,
      List.flatMap_cons, List.append_assoc]
    exact congrArg (guardChar c ++ ·) ih

/-- A component is decoded with its URL to its guarded text. -/
theorem decodeUri_encode (text : Text) : decodeUri (encode text) = guarded text := by
  have alone := decodeUri_encode_append text []
  rw [List.append_nil] at alone
  exact alone.trans (List.append_nil _)

/-- A character that starts no escape stays where it is. -/
theorem decodeUri_plain {c : Char} (plain : c ≠ '%') (rest : Text) :
    decodeUri (c :: rest) = c :: decodeUri rest := by
  rw [decodeUri, pieces_plain plain, decodeFrom]
  rfl

/-- No delimiter stands in a guarded text. -/
theorem not_mem_guarded {c : Char} (delimiter : c ∈ delimiters) (text : Text) :
    c ∉ guarded text := by
  intro found
  obtain ⟨d, -, inside⟩ := List.mem_flatMap.1 found
  unfold guardChar at inside
  split at inside
  · next other =>
    have apart : ∀ c ∈ delimiters, delimiters.all (fun d => c ∉ escape d.toNat) :=
      Text.forall_mem_iff_all.2 (by decide)
    exact Text.forall_mem_iff_all.2 (apart c delimiter) d other inside
  · next other =>
    rw [List.mem_singleton.1 inside] at delimiter
    exact other delimiter

/-- A text without delimiters needs no guard. -/
theorem guarded_eq_self {text : Text} (free : ∀ c ∈ text, c ∉ delimiters) :
    guarded text = text := by
  induction text with
  | nil => rfl
  | cons c text ih =>
    rw [guarded_cons_of_not_mem (free c (List.mem_cons_self ..)),
      ih fun d found => free d (List.mem_cons_of_mem _ found)]

/-! ## The second pass -/

/-- A delimiter is no hexadecimal digit. -/
theorem isHex_of_delimiter : ∀ c ∈ delimiters, isHex c = false :=
  Text.forall_mem_iff_all.2 (by decide)

/-- A delimiter is no hexadecimal digit, and neither is the percent sign that guards it. -/
theorem isHex_head?_guarded (text : Text) :
    (guarded text).head?.any isHex = text.head?.any isHex := by
  cases text with
  | nil => rfl
  | cons c rest =>
    by_cases delimiter : c ∈ delimiters
    · have percent : isHex '%' = false := by decide
      rw [guarded_cons_of_mem delimiter]
      exact percent.trans (isHex_of_delimiter c delimiter).symm
    · rw [guarded_cons_of_not_mem delimiter]
      rfl

/-- A guarded text starts with two hexadecimal digits exactly if the text does. -/
theorem hexAhead_guarded (text : Text) : hexAhead (guarded text) = hexAhead text := by
  cases text with
  | nil => rfl
  | cons c rest =>
    by_cases delimiter : c ∈ delimiters
    · have guard : ∃ more, guarded (c :: rest) = '%' :: more :=
        ⟨_, guarded_cons_of_mem delimiter rest⟩
      obtain ⟨more, same⟩ := guard
      have percent : isHex '%' = false := by decide
      rw [same, hexAhead_cons, hexAhead_cons, percent, isHex_of_delimiter c delimiter,
        Bool.false_and, Bool.false_and]
    · rw [guarded_cons_of_not_mem delimiter, hexAhead_cons, hexAhead_cons, isHex_head?_guarded]

/-- The guards of a text change nothing when it is decoded. -/
theorem decodeFrom_guarded {state : Utf8.State} (awaits : Utf8.Awaits state) (text : Text) :
    decodeFrom (fun _ => false) state (pieces (guarded text)) =
      decodeFrom (fun _ => false) state (pieces text) := by
  have digits {c : Char} (digit : isHex c = true) : c ∉ delimiters := by
    intro delimiter
    rw [isHex_of_delimiter c delimiter] at digit
    exact Bool.false_ne_true digit
  -- A state inside of a character waits for an octet outside of ASCII, so a delimiter breaks the
  -- character off whether it is guarded or not.
  fun_induction pieces text generalizing state with
  | case1 => rfl
  | case2 high low rest hex ih =>
    obtain ⟨one, two⟩ := Bool.and_eq_true_iff.1 hex
    have later := ih (Utf8.awaits_step state (Piece.octet high low))
    rw [guarded_cons_of_not_mem (by decide), guarded_cons_of_not_mem (digits one),
      guarded_cons_of_not_mem (digits two), pieces, if_pos hex]
    simp only [decodeFrom, Bool.false_eq_true, if_false, later]
  | case3 high low rest hex ih =>
    have free : hexAhead (guarded (high :: low :: rest)) = false :=
      (hexAhead_guarded _).trans (Bool.eq_false_iff.2 hex)
    rw [guarded_cons_of_not_mem (by decide), pieces_percent free, decodeFrom, decodeFrom,
      @ih .idle trivial]
  | case4 c rest short ih =>
    have later := @ih .idle trivial
    by_cases delimiter : c ∈ delimiters
    · have small := toNat_of_delimiter c delimiter
      have octet : c.toNat < 256 := Nat.lt_trans small (by decide)
      rw [guarded_cons_of_mem delimiter, pieces_escape octet]
      simp only [decodeFrom, octet_escape octet, Bool.false_eq_true, if_false,
        Utf8.step_of_awaits awaits small, Char.ofNat_toNat, later, List.append_assoc,
        List.singleton_append]
    · by_cases percent : c = '%'
      · subst percent
        have free : hexAhead rest = false :=
          hexAhead_of_short fun high low more => short high low more rfl
        rw [guarded_cons_of_not_mem delimiter, pieces_percent ((hexAhead_guarded rest).trans free),
          decodeFrom, decodeFrom, later]
      · rw [guarded_cons_of_not_mem delimiter, pieces_plain percent, decodeFrom, decodeFrom, later]

/-- A guarded text is decoded like the text itself. -/
theorem decode_guarded (text : Text) : decode (guarded text) = decode text :=
  decodeFrom_guarded (show Utf8.Awaits .idle from trivial) text

/-! ## Texts that decoding leaves as they are -/

/-- Decoding yields at most one character for each piece. -/
theorem length_decodeFrom_le (state : Utf8.State) (parts : List Piece) :
    (decodeFrom (fun _ => false) state parts).length ≤ (Utf8.flush state).length + parts.length := by
  induction parts generalizing state with
  | nil => simp [decodeFrom]
  | cons part parts ih =>
    cases part with
    | plain c =>
      have later := ih .idle
      simp only [decodeFrom, List.length_append, List.length_cons, Utf8.flush,
        List.length_nil] at later ⊢
      omega
    | escape high low =>
      have fed := Utf8.length_step_le state (Piece.octet high low)
      have later := ih (Utf8.step state (Piece.octet high low)).2
      simp only [decodeFrom, Bool.false_eq_true, if_false, List.length_append, List.length_cons]
      omega

/-- Pieces that are as many as the characters of their text are plain. -/
theorem plain_of_length_le {parts : List Piece}
    (many : (parts.flatMap Piece.text).length ≤ parts.length) :
    ∃ text : Text, parts = text.map Piece.plain := by
  have least (parts : List Piece) : parts.length ≤ (parts.flatMap Piece.text).length := by
    induction parts with
    | nil => exact Nat.le_refl _
    | cons part parts ih =>
      have one : 1 ≤ part.text.length := by cases part <;> simp [Piece.text]
      rw [List.flatMap_cons, List.length_append, List.length_cons]
      omega
  induction parts with
  | nil => exact ⟨[], rfl⟩
  | cons part parts ih =>
    have others := least parts
    rw [List.flatMap_cons, List.length_append, List.length_cons] at many
    cases part with
    | plain c =>
      simp only [Piece.text, List.length_singleton] at many
      obtain ⟨text, rfl⟩ := ih (by omega)
      exact ⟨c :: text, rfl⟩
    | escape high low =>
      simp only [Piece.text, List.length_cons, List.length_nil] at many
      omega

/-- Pieces without an escape are plain. -/
theorem exists_map_plain {parts : List Piece} (free : ∀ high low, .escape high low ∉ parts) :
    ∃ text : Text, parts = text.map Piece.plain := by
  induction parts with
  | nil => exact ⟨[], rfl⟩
  | cons part parts ih =>
    obtain ⟨text, rfl⟩ := ih fun high low found => free high low (List.mem_cons_of_mem _ found)
    cases part with
    | plain c => exact ⟨c :: text, rfl⟩
    | escape high low => exact absurd (List.mem_cons_self ..) (free high low)

/-- Plain pieces of a text are its characters. -/
theorem eq_of_pieces_eq_map_plain {text plain : Text} (parts : pieces text = plain.map Piece.plain) :
    plain = text := by
  have written := flatMap_text_pieces text
  rw [parts, List.flatMap_map] at written
  simpa [Piece.text] using written

/-- All pieces of a text are plain exactly if the text has no escape. -/
theorem pieces_eq_map_plain_iff {text : Text} :
    pieces text = text.map Piece.plain ↔ IsUnescaped text := by
  constructor
  · intro plain high low one two inside
    have found := escape_mem_pieces_iff.2 ⟨one, two, inside⟩
    rw [plain] at found
    obtain ⟨c, -, same⟩ := List.mem_map.1 found
    exact absurd same (by simp)
  · intro unescaped
    have free : ∀ high low, .escape high low ∉ pieces text := by
      intro high low found
      obtain ⟨one, two, inside⟩ := escape_mem_pieces_iff.1 found
      exact unescaped high low one two inside
    obtain ⟨plain, parts⟩ := exists_map_plain free
    rw [parts, eq_of_pieces_eq_map_plain parts]

/-- Decoding leaves exactly the texts without an escape as they are. -/
theorem decode_eq_self_iff {text : Text} : decode text = text ↔ IsUnescaped text := by
  rw [← pieces_eq_map_plain_iff]
  constructor
  · intro same
    have short : text.length ≤ (pieces text).length := by
      have bound := length_decodeFrom_le .idle (pieces text)
      rw [show decodeFrom (fun _ => false) .idle (pieces text) = text from same] at bound
      simpa [Utf8.flush] using bound
    have written := flatMap_text_pieces text
    have many : ((pieces text).flatMap Piece.text).length ≤ (pieces text).length := by
      rw [written]
      exact short
    obtain ⟨plain, parts⟩ := plain_of_length_le many
    rw [parts, eq_of_pieces_eq_map_plain parts]
  · intro plain
    have decoded (text : Text) :
        decodeFrom (fun _ => false) .idle (text.map Piece.plain) = text := by
      induction text with
      | nil => rfl
      | cons c text ih => exact congrArg (c :: ·) ih
    rw [decode, plain, decoded]

end Percent

end RoutePattern
