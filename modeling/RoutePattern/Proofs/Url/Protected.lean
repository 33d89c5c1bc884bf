import Mathlib.Data.List.Basic
import RoutePattern.Proofs.Url.Delimited

/-!
# Decoding a URL as a component

A component is decoded by reading all octets that it stands for at once (`decode_eq_decode_octets`).
A whole URL is decoded run by run: the octets of neighbouring escapes are collected, and they are
read when something else comes, be it a plain character or an escape that is kept
(`decodeUri_eq_decodeRuns`). Both give the same text for the same octets, because every plain
character ends what comes before it. So decoding a URL is decoding a component in which the percent
sign of each escaped delimiter is escaped itself, and the two differ on nothing else
(`decodeUri_eq_decode_protect`).
-/
namespace RoutePattern

namespace Percent

open Text

/-! ## All octets at once -/

/-- The octets that a piece stands for: those of a character, or the one of an escape. -/
def Piece.octets : Piece → List Nat
  | .plain c => Utf8.encode c.toNat
  | .escape high low => [Piece.octet high low]

/-- The octets that an escaped text stands for. -/
def octets (text : Text) : List Nat := (pieces text).flatMap Piece.octets

/-- Pieces are decoded by reading the octets that they stand for. -/
theorem decodeFrom_eq_decodeFrom_octets {state : Utf8.State} (proper : Utf8.Proper state)
    (parts : List Piece) :
    decodeFrom (fun _ => false) state parts =
      Utf8.decodeFrom state (parts.flatMap Piece.octets) := by
  induction parts generalizing state with
  | nil => rfl
  | cons piece parts ih =>
    cases piece with
    | plain c =>
      rw [List.flatMap_cons, Piece.octets, Utf8.decodeFrom_encode_append proper, decodeFrom,
        ih Utf8.proper_idle]
    | escape high low =>
      have later := ih (Utf8.proper_step proper (Piece.octet high low))
      simp only [decodeFrom, Bool.false_eq_true, if_false, later]
      rfl

/-- A component is decoded by reading the octets that it stands for. -/
theorem decode_eq_decode_octets (text : Text) : decode text = Utf8.decode (octets text) :=
  decodeFrom_eq_decodeFrom_octets Utf8.proper_idle (pieces text)

/-! ## Octets run by run -/

/-- The text of decoded pieces, with the octets of escapes collected until a plain character, an
escape that is kept or the end comes. -/
def decodeRuns (keeps : Nat → Bool) : (pending : List Nat) → List Piece → Text
  | pending, [] => Utf8.decode pending
  | pending, .plain c :: rest => Utf8.decode pending ++ c :: decodeRuns keeps [] rest
  | pending, .escape high low :: rest =>
    if keeps (Piece.octet high low) then
      Utf8.decode pending ++ (Piece.escape high low).text ++ decodeRuns keeps [] rest
    else decodeRuns keeps (pending ++ [Piece.octet high low]) rest

/-- Octets that are collected are decoded like octets that are read one by one. -/
theorem decodeRuns_eq (keeps : Nat → Bool) (pending : List Nat) (parts : List Piece) :
    decodeRuns keeps pending parts =
      (Utf8.feed .idle pending).1 ++ decodeFrom keeps (Utf8.feed .idle pending).2 parts := by
  have whole (pending : List Nat) : Utf8.decode pending =
      (Utf8.feed .idle pending).1 ++ Utf8.flush (Utf8.feed .idle pending).2 :=
    Utf8.decodeFrom_eq_feed .idle pending
  have nothing (parts : List Piece)
      (ih : ∀ pending, decodeRuns keeps pending parts =
        (Utf8.feed .idle pending).1 ++ decodeFrom keeps (Utf8.feed .idle pending).2 parts) :
      decodeRuns keeps [] parts = decodeFrom keeps .idle parts := ih []
  induction parts generalizing pending with
  | nil => exact whole pending
  | cons piece parts ih =>
    cases piece with
    | plain c => rw [decodeRuns, decodeFrom, whole, nothing parts ih, List.append_assoc]
    | escape high low =>
      rw [decodeRuns, decodeFrom]
      split
      · rw [whole, nothing parts ih]
        simp only [List.append_assoc]
      · rw [ih, Utf8.feed_append]
        simp only [Utf8.feed, List.append_nil, List.append_assoc]

/-- A URL is decoded run by run. -/
theorem decodeUri_eq_decodeRuns (text : Text) :
    decodeUri text = decodeRuns isDelimiter [] (pieces text) :=
  (decodeRuns_eq isDelimiter [] (pieces text)).symm

/-! ## Protected escapes -/

/-- A text with the percent sign of each escaped delimiter escaped itself, from the left. -/
def protect : Text → Text
  | [] => []
  | '%' :: high :: low :: rest =>
    if isHex high && isHex low then
      if isDelimiter (Piece.octet high low) then '%' :: '2' :: '5' :: high :: low :: protect rest
      else '%' :: high :: low :: protect rest
    else '%' :: protect (high :: low :: rest)
  | c :: rest => c :: protect rest

/-- A piece is the escape of a delimiter. -/
def Piece.isKept : Piece → Bool
  | .plain _ => false
  | .escape high low => isDelimiter (Piece.octet high low)

/-- A piece as it stands in a protected text. -/
def Piece.protect : Piece → List Piece
  | .plain c => [.plain c]
  | .escape high low =>
    if isDelimiter (Piece.octet high low) then [.escape '2' '5', .plain high, .plain low]
    else [.escape high low]

/-- Protecting a text leaves its first character. -/
theorem head?_protect (text : Text) : (protect text).head? = text.head? := by
  fun_cases protect text with
  | case1 => rfl
  | case2 high low rest hex delimiter => rfl
  | case3 high low rest hex delimiter => rfl
  | case4 high low rest hex => rfl
  | case5 c rest short => rfl

/-- A protected text starts with two hexadecimal digits exactly if the text does. -/
theorem hexAhead_protect (text : Text) : hexAhead (protect text) = hexAhead text := by
  cases text with
  | nil => rfl
  | cons c rest =>
    by_cases percent : c = '%'
    · obtain ⟨more, same⟩ : ∃ more, protect (c :: rest) = c :: more :=
        List.head?_eq_some_iff.1 (head?_protect (c :: rest))
      have digitless : isHex c = false := percent ▸ by decide
      rw [same, hexAhead_cons, hexAhead_cons, digitless]
      rfl
    · have plain : protect (c :: rest) = c :: protect rest := by
        rw [protect]
        intro high low more same
        exact absurd same percent
      rw [plain, hexAhead_cons, hexAhead_cons, head?_protect]

/-- The pieces of a protected text are the protected pieces of the text. -/
theorem pieces_protect (text : Text) :
    pieces (protect text) = (pieces text).flatMap Piece.protect := by
  have digit {c : Char} (hex : isHex c = true) : c ≠ '%' := by
    rintro rfl
    exact absurd hex (by decide)
  fun_induction protect text with
  | case1 => rfl
  | case2 high low rest hex delimiter ih =>
    obtain ⟨one, two⟩ := Bool.and_eq_true_iff.1 hex
    have guard : (isHex '2' && isHex '5') = true := by decide
    rw [pieces, if_pos guard, pieces_plain (digit one), pieces_plain (digit two), ih, pieces,
      if_pos hex, List.flatMap_cons, Piece.protect, if_pos delimiter]
    rfl
  | case3 high low rest hex delimiter ih =>
    rw [pieces, if_pos hex, ih, pieces, if_pos hex, List.flatMap_cons, Piece.protect,
      if_neg delimiter]
    rfl
  -- A percent sign that escapes nothing must not get digits behind it by what is protected there.
  | case4 high low rest hex ih =>
    have free : hexAhead (protect (high :: low :: rest)) = false :=
      (hexAhead_protect _).trans (Bool.eq_false_iff.2 hex)
    rw [pieces_percent free, ih, pieces, if_neg hex]
    rfl
  | case5 c rest short ih =>
    by_cases percent : c = '%'
    · subst percent
      have free : hexAhead rest = false :=
        hexAhead_of_short fun high low more => short high low more rfl
      rw [pieces_percent ((hexAhead_protect rest).trans free), ih, pieces_percent free]
      rfl
    · rw [pieces_plain percent, ih, pieces_plain percent]
      rfl

/-- Octets that are collected in front of pieces are decoded with the octets of the protected
pieces, all at once. -/
theorem decodeRuns_eq_decode_protect (pending : List Nat) (parts : List Piece) :
    decodeRuns isDelimiter pending parts =
      Utf8.decode (pending ++ (parts.flatMap Piece.protect).flatMap Piece.octets) := by
  induction parts generalizing pending with
  | nil => simp [decodeRuns]
  | cons piece parts ih =>
    have character (c : Char) (octets : List Nat) :
        Utf8.decode (Utf8.encode c.toNat ++ octets) = c :: Utf8.decode octets :=
      Utf8.decode_append_encode [] c octets
    cases piece with
    | plain c =>
      simp only [decodeRuns, ih, List.flatMap_cons, Piece.protect, Piece.octets, List.nil_append,
        List.singleton_append, Utf8.decode_append_encode]
    | escape high low =>
      by_cases delimiter : isDelimiter (Piece.octet high low) = true
      · have sign : [Piece.octet '2' '5'] = Utf8.encode '%'.toNat := by decide
        simp only [decodeRuns, delimiter, if_true, ih, List.flatMap_cons, List.flatMap_append,
          List.flatMap_nil, Piece.protect, Piece.octets, sign, List.append_assoc, List.nil_append,
          Utf8.decode_append_encode, character]
        rfl
      · simp only [decodeRuns, delimiter, ih, List.flatMap_cons, Piece.protect, List.append_assoc,
          List.singleton_append]
        rfl

/-! ## Escaped delimiters -/

/-- No escape of a text stands for a delimiter. -/
def HasNoEscapedDelimiter (text : Text) : Prop :=
  ∀ high low, isHex high = true → isHex low = true → isDelimiter (Piece.octet high low) = true →
    ¬ ['%', high, low] <:+: text

/-- The escapes of delimiters among the pieces of a text. -/
theorem hasNoEscapedDelimiter_iff {text : Text} :
    HasNoEscapedDelimiter text ↔ ∀ piece ∈ pieces text, piece.isKept = false := by
  constructor
  · intro free piece found
    cases piece with
    | plain c => rfl
    | escape high low =>
      obtain ⟨one, two, inside⟩ := escape_mem_pieces_iff.1 found
      exact Bool.eq_false_iff.2 fun delimiter => free high low one two delimiter inside
  · intro free high low one two delimiter inside
    have found := free _ (escape_mem_pieces_iff.2 ⟨one, two, inside⟩)
    exact Bool.eq_false_iff.1 found delimiter

/-- Each escape of a delimiter makes a decoded URL two characters longer than a component. -/
theorem length_decodeFrom_isDelimiter {state : Utf8.State} (awaits : Utf8.Awaits state)
    (parts : List Piece) :
    (decodeFrom isDelimiter state parts).length =
      (decodeFrom (fun _ => false) state parts).length + 2 * parts.countP Piece.isKept := by
  induction parts generalizing state with
  | nil => rfl
  | cons piece parts ih =>
    have idle : Utf8.Awaits .idle := trivial
    cases piece with
    | plain c =>
      have later := ih idle
      simp only [decodeFrom, List.length_append, List.length_cons, later, List.countP_cons,
        Piece.isKept, Bool.false_eq_true, if_false]
      omega
    | escape high low =>
      by_cases delimiter : isDelimiter (Piece.octet high low) = true
      · obtain ⟨d, structural, octet⟩ := isDelimiter_iff.1 delimiter
        have ascii : Piece.octet high low < 0x80 := octet ▸ toNat_of_delimiter d structural
        have later := ih idle
        simp only [decodeFrom, delimiter, if_true, Bool.false_eq_true, if_false,
          Utf8.step_of_awaits awaits ascii, List.length_append, List.length_cons, List.length_nil,
          Piece.text, later, List.countP_cons, Piece.isKept]
        omega
      · have later := ih (Utf8.awaits_step state (Piece.octet high low))
        simp only [decodeFrom, delimiter, Bool.false_eq_true, if_false, List.length_append, later,
          List.countP_cons, Piece.isKept]
        omega

/-- Any other piece needs no protection. -/
theorem Piece.protect_eq_singleton {piece : Piece} (free : piece.isKept = false) :
    piece.protect = [piece] := by
  cases piece with
  | plain c => rfl
  | escape high low => exact if_neg (Bool.eq_false_iff.1 free)

/-- A URL is decoded like a component that protects the escapes of delimiters. So it is decoded like
a component itself exactly if no escape of it stands for a delimiter. -/
theorem decodeUri_eq_decode_protect (text : Text) :
    decodeUri text = decode (protect text) ∧
      (decodeUri text = decode text ↔ HasNoEscapedDelimiter text) := by
  have whole : decodeUri text = decode (protect text) := by
    rw [decodeUri_eq_decodeRuns, decodeRuns_eq_decode_protect, decode_eq_decode_octets, octets,
      pieces_protect, List.nil_append]
  refine ⟨whole, ?_⟩
  rw [hasNoEscapedDelimiter_iff]
  constructor
  · intro same piece found
    have longer := length_decodeFrom_isDelimiter (show Utf8.Awaits .idle from trivial) (pieces text)
    have equal : (decodeFrom isDelimiter .idle (pieces text)).length =
        (decodeFrom (fun _ => false) .idle (pieces text)).length := congrArg List.length same
    have none : (pieces text).countP Piece.isKept = 0 := by omega
    exact Bool.eq_false_iff.2 (List.countP_eq_zero.1 none piece found)
  · intro free
    have unchanged : (pieces text).flatMap Piece.protect = pieces text := by
      rw [List.flatMap_congr fun piece found => Piece.protect_eq_singleton (free piece found)]
      exact List.flatMap_singleton' _
    rw [whole, decode, pieces_protect, unchanged]
    rfl

-- A character that an escaped slash interrupts is replaced on both sides of it.
example : protect "%E4%B8%2f%AD%".toList = "%E4%B8%252f%AD%".toList ∧
    decodeUri "%E4%B8%2f%AD%".toList = "\uFFFD%2f\uFFFD%".toList := by
  decide

end Percent

end RoutePattern
