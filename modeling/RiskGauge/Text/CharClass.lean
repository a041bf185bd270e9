import RiskGauge.Text.DigitTable
import RiskGauge.Text.WordTable

/-!
# Classes of characters

Blanks, line breaks, decimal digits and word characters. ASCII characters are told apart by
comparison; the tables are read only beyond ASCII.
-/

namespace RiskGauge.Text

/-- Membership in a table of inclusive ranges. -/
def inRanges (ranges : List (Nat × Nat)) (n : Nat) : Bool :=
  ranges.any fun r => r.1 ≤ n && n ≤ r.2

/-- Blanks: the ASCII controls and separators that only move the pen, and the spaces of Unicode. -/
def isBlank (c : Char) : Bool :=
  let n := c.toNat
  if n < 0x80 then (9 ≤ n && n ≤ 13) || (28 ≤ n && n ≤ 32)
  else
    n == 0x85 || n == 0xA0 || n == 0x1680 || (0x2000 ≤ n && n ≤ 0x200A) || n == 0x2028 ||
      n == 0x2029 || n == 0x202F || n == 0x205F || n == 0x3000

/-- Characters that end a line of text on their own. A carriage return joins a line feed that
follows it, see `Text.lines`. -/
def isLineBreak (c : Char) : Bool :=
  let n := c.toNat
  (10 ≤ n && n ≤ 13) || (28 ≤ n && n ≤ 30) || n == 0x85 || n == 0x2028 || n == 0x2029

/-- An ASCII letter. -/
def isAsciiLetter (c : Char) : Bool :=
  ('a' ≤ c && c ≤ 'z') || ('A' ≤ c && c ≤ 'Z')

/-- An ASCII digit. -/
def isAsciiDigit (c : Char) : Bool :=
  '0' ≤ c && c ≤ '9'

/-- An ASCII letter or digit. -/
def isAsciiAlnum (c : Char) : Bool :=
  isAsciiLetter c || isAsciiDigit c

/-- The value of a decimal digit of any script. -/
def digitValue? (c : Char) : Option Nat :=
  let n := c.toNat
  if n < 0x80 then
    if isAsciiDigit c then some (n - '0'.toNat) else none
  else
    (zeroDigits.find? fun z => z ≤ n && n < z + 10).map (n - ·)

/-- A decimal digit of any script. -/
def isDigit (c : Char) : Bool :=
  (digitValue? c).isSome

/-- A letter or numeral of any script, or an underscore. -/
def isWord (c : Char) : Bool :=
  let n := c.toNat
  if n < 0x80 then isAsciiAlnum c || c == '_' else inRanges wordRanges n

/-- A text with nothing to read in it. -/
def isBlankText (s : List Char) : Bool :=
  s.all isBlank

/-- The text without the blanks around it. -/
def trim (s : List Char) : List Char :=
  ((s.dropWhile isBlank).reverse.dropWhile isBlank).reverse

/-- Nothing is dropped from a text whose first character is kept. -/
theorem dropWhile_of_head? {p : Char → Bool} {s : List Char} (h : ∀ c ∈ s.head?, p c = false) : s.dropWhile p = s := by
  cases s with
  | nil => rfl
  | cons c s => exact List.dropWhile_cons_of_neg (by simp [h c rfl])

theorem dropWhile_beq_of_head? {d : Char} {s : List Char} (h : s.head? ≠ some d) : s.dropWhile (· == d) = s :=
  dropWhile_of_head? fun _ hc => beq_eq_false_iff_ne.mpr fun heq => h (heq ▸ hc)

/-- A text without blanks has none around it. -/
theorem trim_of_forall {s : List Char} (h : ∀ c ∈ s, isBlank c = false) : trim s = s := by
  have hfront : s.dropWhile isBlank = s := dropWhile_of_head? fun c hc => h c (List.mem_of_head? hc)
  have hback : s.reverse.dropWhile isBlank = s.reverse :=
    dropWhile_of_head? fun c hc => h c (List.mem_reverse.mp (List.mem_of_head? hc))
  rw [trim, hfront, hback, List.reverse_reverse]

end RiskGauge.Text
