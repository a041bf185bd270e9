import RiskGauge.Yaml.Position

/-!
# Texts of YAML scalars

How plain, quoted and block scalars are written: which characters belong to them, and how the ends of their
lines count. A single line end counts as a blank; of several the first is dropped.
-/

namespace RiskGauge.Yaml

/-- What the end of a line counts for, followed by more line ends. -/
def foldBreaks (first : Char) (more : List Char) : List Char :=
  (if first != '\n' then [first] else if more.isEmpty then [' '] else []) ++ more

namespace Quoted

/-- The line ends behind one, with the blanks around them left out; `none` at the mark of a document. -/
def moreBreaks : Nat → Position → Option (List Char × Position)
  | 0, _ => none
  | fuel + 1, p =>
    if p.atDocumentMark then none
    else
      let p := p.skip isGap
      match p.lineBreak? with
      | none => some ([], p)
      | some (b, p) => (moreBreaks fuel p).map fun (bs, p) => (b :: bs, p)

/-- The value of a hexadecimal digit. -/
def hexValue? (c : Char) : Option Nat :=
  if Text.isAsciiDigit c then some (c.toNat - 48)
  else if 'a' ≤ c && c ≤ 'f' then some (c.toNat - 87)
  else if 'A' ≤ c && c ≤ 'F' then some (c.toNat - 55)
  else none

/-- The character with a code of the given number of hexadecimal digits. -/
def coded? (width : Nat) (p : Position) : Option (Char × Position) := do
  let digits ← (p.rest.take width).mapM hexValue?
  if digits.length < width then none
  let code := digits.foldl (fun n d => 16 * n + d) 0
  if code.isValidChar then some (Char.ofNat code, p.advance width) else none

/-- The character that a letter behind a backslash stands for. -/
def named? : Char → Option Char
  | '0' => some (Char.ofNat 0)
  | 'a' => some (Char.ofNat 7)
  | 'b' => some (Char.ofNat 8)
  | 't' | '\t' => some '\t'
  | 'n' => some '\n'
  | 'v' => some (Char.ofNat 11)
  | 'f' => some (Char.ofNat 12)
  | 'r' => some '\r'
  | 'e' => some (Char.ofNat 0x1B)
  | ' ' => some ' '
  | '"' => some '"'
  | '\\' => some '\\'
  | '/' => some '/'
  | 'N' => some (Char.ofNat 0x85)
  | '_' => some (Char.ofNat 0xA0)
  | 'L' => some (Char.ofNat 0x2028)
  | 'P' => some (Char.ofNat 0x2029)
  | _ => none

/-- The text of what stands behind a backslash. -/
def escape? (p : Position) : Option (List Char × Position) := do
  let c ← p.head?
  match named? c with
  | some d => return ([d], p.next)
  | none =>
    let one (r : Char × Position) : List Char × Position := ([r.1], r.2)
    match c with
    | 'x' => (coded? 2 p.next).map one
    | 'u' => (coded? 4 p.next).map one
    | 'U' => (coded? 8 p.next).map one
    | _ =>
      let (_, p) ← p.lineBreak?
      moreBreaks (p.rest.length + 1) p

/-- The rest of a quoted scalar and the place behind its closing quote. Backslashes count between double
quotes; between single ones a quote is written twice. -/
def body (double : Bool) : Nat → Position → Option (List Char × Position)
  | 0, _ => none
  | fuel + 1, p => do
    let c ← p.head?
    let joined (r : List Char × Position) : Option (List Char × Position) :=
      (body double fuel r.2).map fun (s, p) => (r.1 ++ s, p)
    if !double && c == '\'' && p.peek? 1 == some '\'' then joined (['\''], p.advance 2)
    else if c == (if double then '"' else '\'') then some ([], p.next)
    else if double && c == '\\' then joined (← escape? p.next)
    else
      let (blanks, behind) := p.span isGap
      match behind.lineBreak? with
      | some (b, behind) =>
        let (more, behind) ← moreBreaks (behind.rest.length + 1) behind
        joined (foldBreaks b more, behind)
      | none => if blanks.isEmpty then joined ([c], p.next) else joined (blanks, behind)

/-- A quoted scalar whose opening quote stands here. -/
def read? (double : Bool) (p : Position) : Option (List Char × Position) :=
  body double (p.rest.length + 1) p.next

end Quoted

namespace Plain

/-- A character ends a plain scalar inside of brackets. -/
def isFlowMark (c : Char) : Bool :=
  c == ',' || c == '[' || c == ']' || c == '\x7b' || c == '\x7d'

/-- How many characters the next word of a plain scalar has. A colon ends it if a word ends behind it. -/
def wordLength (flow : Bool) : List Char → Nat
  | [] => 0
  | c :: rest =>
    if isGap c || isBreak c || (flow && (isFlowMark c || c == '?')) then 0
    else if c == ':' && (endsWord rest.head? || (flow && rest.head?.any isFlowMark)) then 0
    else wordLength flow rest + 1

/-- The line ends behind one; `none` at the mark of a document. -/
def moreBreaks : Nat → Position → Option (List Char) × Position
  | 0, p => (some [], p)
  | fuel + 1, p =>
    if p.atDocumentMark then (none, p)
    else
      let p := p.skip (· == ' ')
      match p.lineBreak? with
      | none => (some [], p)
      | some (b, p) =>
        let (bs, p) := moreBreaks fuel p
        (bs.map (b :: ·), p)

/-- What stands between two words: the text that it counts for, whether a line ended, and the place behind. -/
def between (p : Position) : List Char × Bool × Position :=
  let (blanks, p) := p.span (· == ' ')
  match p.lineBreak? with
  | none => (blanks, false, p)
  | some (b, p) =>
    match moreBreaks (p.rest.length + 1) p with
    | (none, p) => ([], true, p)
    | (some more, p) => (foldBreaks b more, true, p)

/-- The words of a plain scalar, `space` in front of them; whether a line ended behind the last word, and the
place behind. The scalar goes on in lines that reach the column. -/
def words (flow : Bool) (column : Nat) : Nat → List Char → Bool → Position → List Char × Bool × Position
  | 0, _, broken, p => ([], broken, p)
  | fuel + 1, space, broken, p =>
    let n := if p.head? == some '#' then 0 else wordLength flow p.rest
    if n == 0 then ([], broken, p)
    else
      let word := space ++ p.rest.take n
      let (gap, broken, p) := between (p.advance n)
      if gap.isEmpty || p.head? == some '#' || (!flow && p.column < column) then (word, broken, p)
      else
        let (more, broken, p) := words flow column fuel gap broken p
        (word ++ more, broken, p)

/-- A plain scalar that begins here. -/
def read (flow : Bool) (column : Nat) (p : Position) : List Char × Bool × Position :=
  words flow column (p.rest.length + 1) [] false p

end Plain

namespace Block

/-- What happens to the line ends behind a block scalar. -/
inductive Chomp where
  | keep
  | strip
  | clip
deriving DecidableEq

/-- How a block scalar is cut: what happens to its end, and its indentation if that is given. -/
structure Header where
  chomp : Chomp
  indent : Option Nat

/-- The sign for the end of a block. -/
def chomp? : Option Char → Option Chomp
  | some '+' => some .keep
  | some '-' => some .strip
  | _ => none

/-- The digit for the indentation of a block; zero is refused. -/
def indent? (c : Option Char) : Option (Option Nat) :=
  match c with
  | some c => if c == '0' then none else if Text.isAsciiDigit c then some (some (c.toNat - 48)) else some none
  | none => some none

/-- The signs behind the mark of a block, in either order. -/
def header? (p : Position) : Option (Header × Position) := do
  let (header, p) ← match chomp? p.head? with
    | some chomp =>
      match ← indent? p.next.head? with
      | some n => pure ({ chomp, indent := some n : Header }, p.advance 2)
      | none => pure ({ chomp, indent := none }, p.next)
    | none =>
      match ← indent? p.head? with
      | some n =>
        match chomp? p.next.head? with
        | some chomp => pure ({ chomp, indent := some n }, p.advance 2)
        | none => pure ({ chomp := .clip, indent := some n }, p.next)
      | none => pure ({ chomp := .clip, indent := none }, p)
  if endsPart p.head? then return (header, p) else none

/-- The empty lines in front of a block and the deepest column that blanks reach there. -/
def leading : Nat → Nat → Position → List Char × Nat × Position
  | 0, deepest, p => ([], deepest, p)
  | fuel + 1, deepest, p =>
    let p := p.skip (· == ' ')
    let deepest := max deepest p.column
    match p.lineBreak? with
    | none => ([], deepest, p)
    | some (b, p) =>
      let (bs, deepest, p) := leading fuel deepest p
      (b :: bs, deepest, p)

/-- The empty lines in front of a line of a block. -/
def emptyLines (column : Nat) : Nat → Position → List Char × Position
  | 0, p => ([], p)
  | fuel + 1, p =>
    let p := p.skipTo column
    match p.lineBreak? with
    | none => ([], p)
    | some (b, p) =>
      let (bs, p) := emptyLines column fuel p
      (b :: bs, p)

/-- A line of a block begins here. -/
def atLine (column : Nat) (p : Position) : Bool :=
  p.column == column && !p.rest.isEmpty

/-- The lines of a block: their text, the end of the last one and the empty lines behind it. In a folded block
a line feed between two lines that do not begin with a blank counts as a blank, or as nothing if empty lines
stand there. -/
def lines (folded : Bool) (column : Nat) :
    Nat → List Char → Position → List Char × List Char × List Char × Position
  | 0, empties, p => ([], [], empties, p)
  | fuel + 1, empties, p =>
    if atLine column p then
      let (text, behind) := p.span (!isBreak ·)
      let (last, behind) := match behind.lineBreak? with
        | some (b, q) => ([b], q)
        | none => ([], behind)
      let (more, behind) := emptyLines column (behind.rest.length + 1) behind
      if atLine column behind then
        let joint :=
          if folded && last == ['\n'] && !p.head?.any isGap && !behind.head?.any isGap then
            if more.isEmpty then [' '] else []
          else last
        let (rest, last, more, behind) := lines folded column fuel more behind
        (empties ++ text ++ joint ++ rest, last, more, behind)
      else (empties ++ text, last, more, behind)
    else ([], [], empties, p)

/-- A block scalar behind its mark; `outer` is the least column that its lines can have. -/
def read? (folded : Bool) (outer : Nat) (p : Position) : Option (List Char × Position) := do
  let (header, p) ← header? p
  let p ← p.endOfLine?
  let least := max outer 1
  let (column, empties, p) := match header.indent with
    | none =>
      let (empties, deepest, p) := leading (p.rest.length + 1) 0 p
      (max least deepest, empties, p)
    | some n =>
      let column := least + n - 1
      let (empties, p) := emptyLines column (p.rest.length + 1) p
      (column, empties, p)
  let (text, last, more, p) := lines folded column (p.rest.length + 1) empties p
  let ending := match header.chomp with
    | .keep => last ++ more
    | .clip => last
    | .strip => []
  return (text ++ ending, p)

end Block

end RiskGauge.Yaml
