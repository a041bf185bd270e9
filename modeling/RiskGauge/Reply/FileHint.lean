import RiskGauge.Pattern.Build

/-!
# File names that a text asks for

The last file name behind words such as `file:`, `create` or `save as` is the one that is meant.
-/

namespace RiskGauge.FileHint

open Pattern

/-- Characters of file names. -/
def isNameChar (c : Char) : Bool :=
  Text.isAsciiAlnum c || c == '_' || c == '-' || c == '.' || c == '/'

/-- The words in front of a file name. -/
def cue : Pattern :=
  any [all [edge, anyCase "file", blanks, one (fun c => c == ':' || c == '='), blanks],
    all [edge, anyCase "create", gap],
    all [edge, anyCase "make", gap],
    all [edge, anyCase "save", blanks, anyCase "as", gap],
    all [anyCase "파일", optional (either (anyCase "명") (anyCase "을")), blanks,
      optional (either (anyCase "은") (anyCase "을")), blanks]]

/-- The words and the file name behind them. -/
def hint : Pattern :=
  seq cue (group 1 (some1 (oneAnyCase isNameChar)))

/-- The text without the dots at its end. -/
def dropDots (s : List Char) : List Char :=
  (s.reverse.dropWhile (· == '.')).reverse

/-- The one to eight letters and digits behind the last dot of a name. -/
def extension? (name : List Char) : Option (List Char) :=
  let tail := (name.reverse.takeWhile Text.isAsciiAlnum).reverse
  if tail.isEmpty || 8 < tail.length then none
  else if (name.take (name.length - tail.length)).getLast? == some '.' then some tail
  else none

/-- Numbers with dots in between, at least two of them. -/
def isVersion : List Char → Bool :=
  let rec go (digits dots : Bool) : List Char → Bool
    | [] => digits && dots
    | c :: rest => if c == '.' then digits && go false true rest else Text.isDigit c && go true dots rest
  go false false

/-- There are two dots in a row. -/
def hasDoubleDot : List Char → Bool
  | '.' :: '.' :: _ => true
  | _ :: rest => hasDoubleDot rest
  | [] => false

/-- The names behind the words in a text that have an extension. -/
def candidates (text : List Char) : List (List Char) :=
  ((hint.findAll text).map fun m => dropDots (m.group 1)).filter fun name => (extension? name).isSome

/-- A name that can be used: its extension has a letter, it is no version number, and it does not leave its
folder. -/
def isUsable (name : List Char) : Bool :=
  ((extension? name).any fun e => e.any Text.isAsciiLetter) && !isVersion name && !hasDoubleDot name

/-- The file name that a text asks for. -/
def find? (text : List Char) : Option String :=
  match (candidates text).getLast? with
  | none => none
  | some name => if isUsable name then some (String.ofList (name.dropWhile (· == '/'))) else none

end RiskGauge.FileHint
