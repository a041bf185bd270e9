import RiskGauge.Pattern.Build
import RiskGauge.Text.Integer

/-!
# Signs of memory use

Allocations with a written size, and a rough size of literals.
-/

namespace RiskGauge.Memory

open Pattern

/-- Blanks, digits as a group, and blanks between parentheses. -/
def sizeBrackets (n : Nat) : Pattern :=
  all [blanks, char '(', blanks, group n (some1 Text.isDigit), blanks, char ')']

/-- A buffer of a written size. -/
def bufferAlloc : Pattern :=
  all [anyCase "Buffer.alloc", sizeBrackets 1]

/-- An array of a written size. -/
def sizedArray : Pattern :=
  either (all [edge, anyCase "new", gap, anyCase "Array", sizeBrackets 1])
    (all [edge, anyCase "Array", sizeBrackets 2, anyCase ".fill"])

/-- The three kinds of quotes. -/
def isQuote (c : Char) : Bool :=
  c == '"' || c == '\'' || c == '`'

/-- A short text between quotes of one kind. -/
def textLiteral : Pattern :=
  all [group 1 (one isQuote),
    loop (either (one fun c => !isQuote c && c != '\\') (seq (char '\\') (one (· != '\n')))) 1 (some 200) false,
    again 1 (· == ·)]

/-- A short list between brackets without brackets in it. -/
def arrayLiteral : Pattern :=
  all [char '[', group 1 (counted (fun c => c != '[' && c != ']') 0 400), char ']']

/-- A short stretch between braces without braces in it. -/
def objectLiteral : Pattern :=
  all [char '\x7b', group 1 (counted (fun c => c != '\x7b' && c != '\x7d') 0 400), char '\x7d']

/-- A new map or set. -/
def collection : Pattern :=
  all [edge, exactly "new", gap, either (exactly "Map") (exactly "Set"), blanks, char '(']

/-- What the look of a source says about its memory. -/
structure Signals where
  allocations : Nat := 0
  bytes : Nat := 0
  details : List String := []
  reasons : List String := []
deriving DecidableEq, Repr

/-- The size written in a match: that of the first group, else of the second. -/
def writtenSize (m : Found) : Except Text.IntegerFault Nat := do
  let digits := if (m.group 1).isEmpty then m.group 2 else m.group 1
  if digits.isEmpty then return 0 else return (← Text.readInteger digits).toNat

/-- The number of items between the commas of a text. -/
def itemCount (text : List Char) : Nat :=
  text.count ',' + 1

/-- The sum of some sizes. -/
def total (sizes : List Nat) : Nat :=
  sizes.foldl (· + ·) 0

/-- The signs of memory use in a source. A size with too many digits is refused. -/
def scan (text : List Char) : Except Text.IntegerFault Signals := do
  if text.isEmpty then return {}
  let buffers ← (bufferAlloc.findAll text).mapM writtenSize
  let arrays ← (sizedArray.findAll text).mapM writtenSize
  let literals := (textLiteral.findAll text).map (·.length)
  let lists := (arrayLiteral.findAll text).map fun m => itemCount (m.group 1)
  let objects := (objectLiteral.findAll text).map fun m => (m.group 1).count ':'
  let collections := collection.count text
  return {
    allocations := buffers.length + arrays.length + lists.length + objects.length + collections
    bytes :=
      total buffers + 8 * total arrays + total literals + 16 * total lists + 24 * total objects + 128 * collections
    details :=
      buffers.map (fun n => s!"Buffer.alloc({n})")
        ++ arrays.map (fun n => s!"Array({n}) allocation")
        ++ lists.map (fun n => s!"Array literal with ~{n} elements")
        ++ objects.map (fun n => s!"Object literal with ~{n} props")
        ++ (if collections = 0 then [] else [s!"new Map/Set x{collections}"])
    reasons :=
      if buffers.isEmpty && arrays.isEmpty then []
      else [s!"Explicit allocations: {buffers.length} buffer(s), {arrays.length} sized array(s)."] }

end RiskGauge.Memory
