import RoutePattern.Text.Hex
import RoutePattern.Unicode.CaseMap
import RoutePattern.Unicode.Names.Alias
import RoutePattern.Unicode.Names.Ancient
import RoutePattern.Unicode.Names.Brahmic
import RoutePattern.Unicode.Names.Eastern
import RoutePattern.Unicode.Names.Extended
import RoutePattern.Unicode.Names.Hieroglyphs
import RoutePattern.Unicode.Names.Ideographic
import RoutePattern.Unicode.Names.Latin
import RoutePattern.Unicode.Names.Mediterranean
import RoutePattern.Unicode.Names.Modern
import RoutePattern.Unicode.Names.Musical
import RoutePattern.Unicode.Names.Operators
import RoutePattern.Unicode.Names.Ornaments
import RoutePattern.Unicode.Names.Pictographs
import RoutePattern.Unicode.Names.Presentation
import RoutePattern.Unicode.Names.Signs
import RoutePattern.Unicode.Names.South
import RoutePattern.Unicode.Names.Supplementary
import RoutePattern.Unicode.Names.Syllabics
import RoutePattern.Unicode.Names.Technical
import RoutePattern.Unicode.Ranges

/-!
# Characters by name

A character is found by its name or by one of its further names, in small or capital letters. The
names of two large families follow from their code points: unified ideographs, which are called by
them, and syllables of Hangul, which are called by the spelling of their sounds. These have to be
written in capital letters.
-/
namespace RoutePattern.Unicode

/-- All runs of names, those of families apart. -/
def nameRuns : List (List NameRun) :=
  [aliasNames, latinNames, mediterraneanNames, southNames, syllabicsNames, extendedNames,
   technicalNames, operatorsNames, easternNames, modernNames, presentationNames, ancientNames,
   brahmicNames, hieroglyphsNames, ideographicNames, musicalNames, signsNames, pictographsNames,
   ornamentsNames, supplementaryNames]

/-- The unified ideographs. -/
def ideographRanges : List (Nat × Nat) :=
  [(0x3400, 0x4DBF), (0x4E00, 0x9FFF), (0x20000, 0x2A6DF), (0x2A700, 0x2B738), (0x2B740, 0x2B81D),
   (0x2B820, 0x2CEA1), (0x2CEB0, 0x2EBE0), (0x30000, 0x3134A)]

/-- The unified ideograph that is called by hexadecimal digits, of which there are four or five. -/
def ideograph? (digits : Text) : Option Nat :=
  let code := Text.hexNumber digits
  if (digits.length == 4 || digits.length == 5) &&
      digits.all (fun c => c.isDigit || ('A' ≤ c && c ≤ 'F')) && within ideographRanges code then
    some code
  else none

/-- The spellings of the sounds that a syllable of Hangul begins with. -/
def leadSounds : List String :=
  ["G", "GG", "N", "D", "DD", "R", "M", "B", "BB", "S", "SS", "", "J", "JJ", "C", "K", "T", "P",
   "H"]

/-- The spellings of the vowels of Hangul. -/
def vowelSounds : List String :=
  ["A", "AE", "YA", "YAE", "EO", "E", "YEO", "YE", "O", "WA", "WAE", "OE", "YO", "U", "WEO", "WE",
   "WI", "YU", "EU", "YI", "I"]

/-- The spellings of the sounds that a syllable of Hangul ends with. -/
def tailSounds : List String :=
  ["", "G", "GG", "GS", "N", "NJ", "NH", "D", "L", "LG", "LM", "LB", "LS", "LT", "LP", "LH", "M",
   "B", "BS", "S", "SS", "NG", "J", "C", "K", "T", "P", "H"]

/-- The longest of several spellings that a text begins with, by its place among them, and the
text after it. -/
def readSound? (spellings : List String) (text : Text) : Option (Nat × Text) :=
  let fitting := spellings.zipIdx.filter fun entry => entry.1.toList.isPrefixOf text
  (fitting.foldl
    (fun best entry =>
      match best with
      | none => some entry
      | some longest => some (if longest.1.length < entry.1.length then entry else longest))
    none).map fun entry => (entry.2, text.drop entry.1.length)

/-- The first syllable of Hangul. -/
def firstSyllable : Nat := 0xAC00

/-- The syllable of Hangul with a spelling. -/
def syllable? (spelling : Text) : Option Nat := do
  let (lead, rest) ← readSound? leadSounds spelling
  let (vowel, rest) ← readSound? vowelSounds rest
  let (tail, rest) ← readSound? tailSounds rest
  guard rest.isEmpty
  pure (firstSyllable + (lead * vowelSounds.length + vowel) * tailSounds.length + tail)

/-- A text after another one that it begins with. -/
def textAfter? (start : String) (text : Text) : Option Text :=
  if start.toList.isPrefixOf text then some (text.drop start.length) else none

/-- The character with a name. -/
def charNamed? (name : Text) : Option Nat :=
  match textAfter? "HANGUL SYLLABLE " name, textAfter? "CJK UNIFIED IDEOGRAPH-" name with
  | some spelling, _ => syllable? spelling
  | none, some digits => ideograph? digits
  | none, none =>
    let capitals := name.map fun c => Char.ofNat (asciiUpper c.toNat)
    nameRuns.findSome? fun runs => runs.findSome? (·.find? capitals)

end RoutePattern.Unicode
