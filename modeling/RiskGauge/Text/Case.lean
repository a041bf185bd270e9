import RiskGauge.Text.CaseTable
import RiskGauge.Text.CharClass
import RiskGauge.Text.SigmaTable

/-!
# Small letters and capitals

`lower` is the small letter of a character and `upper` its capital. `lowercase` writes a whole text in
small letters; there a capital sigma at the end of a word becomes the final sigma, and a dotted capital I
keeps its dot. `sameLetter` compares two characters with case disregarded: the small letters are equal or
belong to one of the `caseFamilies`.
-/

namespace RiskGauge.Text

namespace CapitalRun

/-- The code point is a capital of this run. -/
def holds (r : CapitalRun) (n : Nat) : Bool :=
  r.first ≤ n && n ≤ r.last && (n - r.first) % r.step == 0

/-- The code point of the small letter. -/
def small (r : CapitalRun) (n : Nat) : Nat :=
  (n + r.shift).toNat

/-- The capital of this run whose small letter has the given code point. -/
def capitalOf? (r : CapitalRun) (n : Nat) : Option Nat :=
  let capital := (n - r.shift).toNat
  if r.holds capital then some capital else none

end CapitalRun

/-- The small letter of a character; a character that is no capital is its own. -/
def lower (c : Char) : Char :=
  let n := c.toNat
  if n < 0x80 then
    if 'A' ≤ c && c ≤ 'Z' then Char.ofNat (n + 32) else c
  else
    match capitalRuns.find? (·.holds n) with
    | some run => Char.ofNat (run.small n)
    | none => c

/-- The small letters that are equal to a small letter when case is disregarded, itself first. -/
def family (small : Char) : List Char :=
  match caseFamilies.find? (·.contains small.toNat) with
  | some members => small :: (members.map Char.ofNat).filter (· != small)
  | none => [small]

/-- All capitals with the given small letter. -/
def capitals (small : Char) : List Char :=
  (capitalRuns.filterMap (·.capitalOf? small.toNat)).map Char.ofNat

/-- All characters that are equal to `c` when case is disregarded. -/
def variants (c : Char) : List Char :=
  (family (lower c)).flatMap fun small => small :: capitals small

/-- Equality with case disregarded. -/
def sameLetter (a b : Char) : Bool :=
  let x := lower a
  let y := lower b
  x == y || (family x).contains y

/-- The capital of a character, or the first one if it is written with several; a character that has
none is its own. -/
def upper (c : Char) : Char :=
  match specialCapitals.lookup c.toNat with
  | some n => Char.ofNat n
  | none => (capitals c).headD c

/-- The small letters of ASCII alone. -/
def lowerAscii (c : Char) : Char :=
  if 'A' ≤ c && c ≤ 'Z' then Char.ofNat (c.toNat + 32) else c

/-- The capitals of ASCII alone. -/
def upperAscii (c : Char) : Char :=
  if 'a' ≤ c && c ≤ 'z' then Char.ofNat (c.toNat - 32) else c

/-- The first character that is no mark inside a word is a letter with case. -/
def wordGoesOn (s : List Char) : Bool :=
  match s.find? fun c => !inRanges caselessMarks c.toNat with
  | some c => inRanges casedRanges c.toNat
  | none => false

/-- Small letters of the text `rest`, which follows `before` (last character first). -/
def lowercaseFrom (before : List Char) : List Char → List Char
  | [] => []
  | c :: rest =>
    let small :=
      if c == 'Σ' then
        [if wordGoesOn before && !wordGoesOn rest then 'ς' else 'σ']
      else if c == 'İ' then ['i', '̇']
      else [lower c]
    small ++ lowercaseFrom (c :: before) rest

/-- The text in small letters. -/
def lowercase (s : List Char) : List Char :=
  lowercaseFrom [] s

end RiskGauge.Text
