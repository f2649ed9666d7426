import SasMigration.Text.Alphabet
import SasMigration.Text.CharacterName.Ancient
import SasMigration.Text.CharacterName.Brahmic
import SasMigration.Text.CharacterName.Cuneiform
import SasMigration.Text.CharacterName.EastAsian
import SasMigration.Text.CharacterName.European
import SasMigration.Text.CharacterName.Further
import SasMigration.Text.CharacterName.Indic
import SasMigration.Text.CharacterName.Insular
import SasMigration.Text.CharacterName.Musical
import SasMigration.Text.CharacterName.Phonetic
import SasMigration.Text.CharacterName.Pictograph
import SasMigration.Text.CharacterName.Presentation
import SasMigration.Text.CharacterName.Semitic
import SasMigration.Text.CharacterName.Shorthand
import SasMigration.Text.CharacterName.Syllabic
import SasMigration.Text.CharacterName.Symbol

namespace SasMigration.CharacterName

def tables : List String :=
  [european, semitic, indic, syllabic, insular, phonetic, symbol, eastAsian, presentation,
  ancient, brahmic, cuneiform, shorthand, musical, pictograph, further]

def cutAtComma (t : Text) : Text × Text :=
  (t.takeWhile (· != ','), (t.dropWhile (· != ',')).drop 1)

def inRun? (name run : Text) : Option Nat :=
  let (first, rest) := cutAtComma run
  let (opening, endings) := cutAtComma rest
  match Text.after? opening name with
  | none | some [] => none
  | some ending =>
    ((Text.splitOn "," endings).idxOf? ending).map fun i ↦ Text.valueIn 16 first + i

def inTable? (name : Text) (table : String) : Option Nat :=
  (Text.splitOn ";" (table.toList.filter (· != '\n'))).findSome? (inRun? name)

def leads : List Text :=
  ["G", "GG", "N", "D", "DD", "R", "M", "B", "BB", "S", "SS", "", "J", "JJ", "C", "K", "T", "P",
  "H"]

def vowels : List Text :=
  ["A", "AE", "YA", "YAE", "EO", "E", "YEO", "YE", "O", "WA", "WAE", "OE", "YO", "U", "WEO", "WE",
  "WI", "YU", "EU", "YI", "I"]

def tails : List Text :=
  ["", "G", "GG", "GS", "N", "NJ", "NH", "D", "L", "LG", "LM", "LB", "LS", "LT", "LP", "LH", "M",
  "B", "BS", "S", "SS", "NG", "J", "C", "K", "T", "P", "H"]

def takePart? (parts : List Text) (t : Text) : Option (Nat × Text) :=
  ((parts.filter fun part ↦ part.isPrefixOf t).map List.length).max?.map fun size ↦
    (parts.idxOf (t.take size), t.drop size)

def syllable? (name : Text) : Option Nat := do
  let rest ← Text.after? "HANGUL SYLLABLE " name
  let (lead, rest) ← takePart? leads rest
  let (vowel, rest) ← takePart? vowels rest
  let (tail, rest) ← takePart? tails rest
  if rest.isEmpty then
    return 0xac00 + (lead * vowels.length + vowel) * tails.length + tail
  else none

def ideographRanges : List (Nat × Nat) :=
  [(0x3400, 0x4dbf), (0x4e00, 0x9fff), (0x20000, 0x2a6df), (0x2a700, 0x2b738), (0x2b740, 0x2b81d),
  (0x2b820, 0x2cea1), (0x2ceb0, 0x2ebe0), (0x30000, 0x3134a)]

def isCapitalHex (c : Char) : Bool := c.isDigit || ('A' ≤ c && c ≤ 'F')

def ideograph? (name : Text) : Option Nat := do
  let digits ← Text.after? "CJK UNIFIED IDEOGRAPH-" name
  let n := Text.valueIn 16 digits
  if (digits.length = 4 || digits.length = 5) && digits.all isCapitalHex &&
      Text.inRanges n ideographRanges then
    return n
  else none

def numberedRanges : List (Text × List (Nat × Nat)) :=
  [("CJK COMPATIBILITY IDEOGRAPH-", [(0xf900, 0xfa6d), (0xfa70, 0xfad9), (0x2f800, 0x2fa1d)]),
  ("KHITAN SMALL SCRIPT CHARACTER-", [(0x18b00, 0x18cd5)]),
  ("NUSHU CHARACTER-", [(0x1b170, 0x1b2fb)])]

def numbered? (name : Text) : Option Nat :=
  numberedRanges.findSome? fun (opening, ranges) ↦ do
    let digits ← Text.after? opening name
    let n := Text.valueIn 16 digits
    if Text.inRanges n ranges && (Nat.toDigits 16 n).map Char.toUpper == digits then return n
    else none

/-- The code point of the character with a name. Letter case counts only in the names of Korean
syllables and unified ideographs. -/
def code? (name : Text) : Option Nat :=
  let capitals := name.map Char.toUpper
  syllable? name <|> ideograph? name <|> numbered? capitals <|>
    tables.findSome? (inTable? capitals)

end SasMigration.CharacterName
