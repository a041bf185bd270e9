import RiskGauge.Script.Reader

/-!
# Literals

Texts between quotes, numbers, patterns between slashes, and templates.
-/

namespace RiskGauge.Script

/-- The length of a text up to and with its closing quote; `none` without one. -/
def quotedLength (quote : Char) : List Char → Option Nat
  | [] => none
  | '\\' :: _ :: rest => (quotedLength quote rest).map (· + 2)
  | c :: rest => if c == quote then some 1 else (quotedLength quote rest).map (· + 1)

/-- The length of a pattern up to and with its closing slash; `inSet` is true between brackets. -/
def slashedLength (inSet : Bool) : List Char → Option Nat
  | [] => none
  | '\\' :: _ :: rest => (slashedLength inSet rest).map (· + 2)
  | c :: rest =>
    if isBreak c then none
    else if c == '/' && !inSet then some 1
    else if c == '[' then (slashedLength true rest).map (· + 1)
    else if c == ']' then (slashedLength false rest).map (· + 1)
    else (slashedLength inSet rest).map (· + 1)

/-- The length of a number: digits and letters, points, and signs behind an `e`. -/
def numberLength (hex : Bool) : List Char → Nat
  | [] => 0
  | 'e' :: '+' :: rest => if hex then 1 else numberLength hex rest + 2
  | 'e' :: '-' :: rest => if hex then 1 else numberLength hex rest + 2
  | 'E' :: '+' :: rest => if hex then 1 else numberLength hex rest + 2
  | 'E' :: '-' :: rest => if hex then 1 else numberLength hex rest + 2
  | c :: rest => if c.isAlphanum || c == '_' then numberLength hex rest + 1 else 0

/-- Takes some characters as a literal. -/
def literal (length : Nat) : Reader SyntaxTree := do
  let start ← nextOffset
  modify (Place.advance length)
  node .other start []

/-- A text between quotes. -/
def quoted : Reader SyntaxTree := do
  match ← ahead with
  | c :: rest =>
    if c == '"' || c == '\'' then
      match quotedLength c rest with
      | some n => literal (n + 1)
      | none => refuse
    else refuse
  | [] => refuse

/-- The length of a number in decimal notation: whole part, point, fraction. -/
def decimalLength (text : List Char) : Nat :=
  let whole := numberLength false text
  match text.drop whole with
  | '.' :: rest => if text.head? == some '0' && 1 < whole && !(text.take 2).all Char.isDigit then whole
    else whole + 1 + numberLength false rest
  | _ => whole

/-- A number. -/
def number : Reader SyntaxTree := do
  let text ← ahead
  match text with
  | '0' :: c :: rest =>
    if "xXbBoO".toList.contains c then literal (2 + numberLength true rest) else literal (decimalLength text)
  | '.' :: c :: _ => if c.isDigit then literal (decimalLength text) else refuse
  | c :: _ => if c.isDigit then literal (decimalLength text) else refuse
  | [] => refuse

/-- A pattern between slashes, with its flags. -/
def slashed : Reader SyntaxTree := do
  match ← ahead with
  | '/' :: rest =>
    match slashedLength false rest with
    | some n => literal (1 + n + nameLength false (rest.drop n))
    | none => refuse
  | _ => refuse

/-- The length of a template up to its end or up to the next expression in it. -/
def templateLength : List Char → Option (Nat × Bool)
  | [] => none
  | '\\' :: _ :: rest => (templateLength rest).map fun (n, more) => (n + 2, more)
  | '`' :: _ => some (1, false)
  | '$' :: '{' :: _ => some (2, true)
  | _ :: rest => (templateLength rest).map fun (n, more) => (n + 1, more)

/-- The rest of a template, with at most `n` pieces between braces. -/
def templateRest (piece : Reader SyntaxTree) : Nat → Reader (List SyntaxTree)
  | 0 => refuse
  | n + 1 => do
    match templateLength (← get).rest with
    | none => refuse
    | some (length, more) =>
      modify (Place.advance length)
      if more then
        let inner ← piece
        sign "\x7d"
        return inner :: (← templateRest piece n)
      else return []

/-- A template with pieces between braces. -/
def template (piece : Reader SyntaxTree) : Reader SyntaxTree := do
  let start ← nextOffset
  sign "`"
  node .other start (← templateRest piece (← left))

end RiskGauge.Script
