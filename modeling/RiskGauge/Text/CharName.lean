import RiskGauge.Text.Case
import RiskGauge.Text.CharName.Aliases
import RiskGauge.Text.CharName.Ancient
import RiskGauge.Text.CharName.Letters
import RiskGauge.Text.CharName.Notations
import RiskGauge.Text.CharName.Patterns
import RiskGauge.Text.CharName.Pictures
import RiskGauge.Text.CharName.Scripts
import RiskGauge.Text.CharName.Syllables
import RiskGauge.Text.CharName.Symbols

/-!
# Names of characters

`Text.charNamed?` gives the character that has a name. Most names stand in tables and may be written with small letters
too. The names of ideographs and of Hangul syllables follow rules, and are written in capitals.

A table is a text of entries, with semicolons and line breaks between them. An entry gives the code point of the character
with a colon behind it, unless that is the next one; then, as a digit, how many pieces its name has in common with the name
before, unless there are none; then the rest of the name. The pieces of a name begin at its blanks and hyphens, and a star
stands for the code point.
-/

namespace RiskGauge.Text

/-- The value of a hexadecimal digit in capitals. -/
def hexDigit? (c : Char) : Option Nat :=
  if isAsciiDigit c then some (c.toNat - 48)
  else if 'A' ≤ c && c ≤ 'F' then some (c.toNat - 55)
  else none

/-- The number that hexadecimal digits stand for. -/
def hexNumber? (s : List Char) : Option Nat :=
  s.foldlM (fun n c => (hexDigit? c).map (16 * n + ·)) 0

/-! ### Tables -/

/-- The pieces of a name. A hyphen behind a blank begins none. -/
def namePieces : List Char → List (List Char)
  | [] => []
  | c :: rest =>
    match namePieces rest with
    | piece :: others =>
      if piece.head? == some ' ' || (piece.head? == some '-' && c != ' ') then [c] :: piece :: others
      else (c :: piece) :: others
    | [] => [[c]]

/-- A character in a table, and the pieces of its name. -/
structure NameRow where
  code : Nat
  pieces : List (List Char)

namespace NameRow

/-- The character of an entry without its code point. -/
def withCode (last : NameRow) (code : Nat) (entry : List Char) : NameRow :=
  let (kept, rest) := match entry with
    | c :: rest => if isAsciiDigit c then (last.pieces.take (c.toNat - 48), rest) else ([], entry)
    | [] => ([], [])
  let rest := rest.flatMap fun c => if c == '*' then (Nat.toDigits 16 code).map upperAscii else [c]
  let joined := kept.isEmpty || rest.isEmpty || rest.head? == some '-' || rest.head? == some ' '
  { code, pieces := kept ++ namePieces (if joined then rest else ' ' :: rest) }

/-- The character of the entry behind a row. -/
def next (last : NameRow) (entry : List Char) : NameRow :=
  match entry.span (· != ':') with
  | (code, _ :: rest) => last.withCode ((hexNumber? code).getD 0) rest
  | (_, []) => last.withCode (last.code + 1) entry

/-- The character with the given name among the entries behind a row. -/
def find? (name : List (List Char)) : NameRow → List (List Char) → Option Nat
  | _, [] => none
  | last, entry :: rest =>
    let row := last.next entry
    if row.pieces == name then some row.code else find? name row rest

end NameRow

/-- The entries of a table. -/
def nameEntries (table : String) : List (List Char) :=
  (table.splitOn "\n").flatMap fun line => (line.splitOn ";").map String.toList

/-- All tables. -/
def nameTables : List String :=
  [CharName.letters, CharName.scripts, CharName.symbols, CharName.patterns, CharName.syllables, CharName.ancient,
    CharName.notations, CharName.pictures, CharName.aliases]

/-- The character with the given name in a table. -/
def tableChar? (name : List Char) : Option Nat :=
  let pieces := namePieces (name.map upperAscii)
  nameTables.findSome? fun table => NameRow.find? pieces ⟨0, []⟩ (nameEntries table)

/-! ### Names by rules -/

/-- The ranges of the unified ideographs. -/
def ideographRanges : List (Nat × Nat) :=
  [(0x3400, 0x4DBF), (0x4E00, 0x9FFF), (0x20000, 0x2A6DF), (0x2A700, 0x2B738), (0x2B740, 0x2B81D), (0x2B820, 0x2CEA1),
    (0x2CEB0, 0x2EBE0), (0x30000, 0x3134A)]

/-- The unified ideograph with the given code point, of four or five digits. -/
def ideograph? (digits : List Char) : Option Nat := do
  if digits.length != 4 && digits.length != 5 then none
  let n ← hexNumber? digits
  if ideographRanges.any fun r => r.1 ≤ n && n ≤ r.2 then some n else none

/-- The sounds with which a Hangul syllable begins. -/
def hangulInitials : List String :=
  ["G", "GG", "N", "D", "DD", "R", "M", "B", "BB", "S", "SS", "", "J", "JJ", "C", "K", "T", "P", "H"]

/-- The vowels of a Hangul syllable. -/
def hangulVowels : List String :=
  ["A", "AE", "YA", "YAE", "EO", "E", "YEO", "YE", "O", "WA", "WAE", "OE", "YO", "U", "WEO", "WE", "WI", "YU", "EU", "YI",
    "I"]

/-- The sounds with which a Hangul syllable ends. -/
def hangulFinals : List String :=
  ["", "G", "GG", "GS", "N", "NJ", "NH", "D", "L", "LG", "LM", "LB", "LS", "LT", "LP", "LH", "M", "B", "BS", "S", "SS",
    "NG", "J", "C", "K", "T", "P", "H"]

/-- The place of the longest sound that a text begins with, and the text behind it. -/
def longestSound? (sounds : List String) (s : List Char) : Option (Nat × List Char) :=
  let found := sounds.zipIdx.filter fun (sound, _) => sound.toList.isPrefixOf s
  (found.foldl (fun best (sound, i) =>
      if best.any fun (n, _) => sound.length ≤ n then best else some (sound.length, i)) none).map
    fun (n, i) => (i, s.drop n)

/-- The Hangul syllable of the given sounds. -/
def hangul? (sounds : List Char) : Option Nat := do
  let (initial, rest) ← longestSound? hangulInitials sounds
  let (vowel, rest) ← longestSound? hangulVowels rest
  let (final, rest) ← longestSound? hangulFinals rest
  if rest.isEmpty then some (0xAC00 + (initial * hangulVowels.length + vowel) * hangulFinals.length + final) else none

/-- The text behind another one. -/
def behindText? (front : String) (s : List Char) : Option (List Char) :=
  if front.toList.isPrefixOf s then some (s.drop front.length) else none

/-- The code point of the character with the given name. -/
def charNamed? (name : List Char) : Option Nat :=
  match behindText? "HANGUL SYLLABLE " name with
  | some sounds => hangul? sounds
  | none =>
    match behindText? "CJK UNIFIED IDEOGRAPH-" name with
    | some digits => ideograph? digits
    | none => tableChar? name

end RiskGauge.Text
