import RiskGauge.Decimal.Write
import RiskGauge.Json.Basic

/-!
# Writing JSON

`Json.compact` writes a value on one line, `Json.indented` with every item and member on a line of its
own, two more blanks deep on each level. Only quotes, backslashes and control characters are escaped.
-/

namespace RiskGauge.Json

/-- A hexadecimal digit. -/
def hexDigit (n : Nat) : Char :=
  if n < 10 then Char.ofNat (48 + n) else Char.ofNat (87 + n)

/-- A character inside of quotes. -/
def escaped (c : Char) : List Char :=
  match c with
  | '"' => ['\\', '"']
  | '\\' => ['\\', '\\']
  | '\n' => ['\\', 'n']
  | '\r' => ['\\', 'r']
  | '\t' => ['\\', 't']
  | _ =>
    if c.toNat == 8 then ['\\', 'b']
    else if c.toNat == 12 then ['\\', 'f']
    else if c.toNat < 0x20 then
      ['\\', 'u', '0', '0', hexDigit (c.toNat / 16), hexDigit (c.toNat % 16)]
    else [c]

/-- A text between quotes. -/
def quote (s : String) : String :=
  String.ofList ('"' :: s.toList.flatMap escaped ++ ['"'])

/-- Pieces between brackets on one line. -/
def bracket (open_ close : String) (pieces : List String) : String :=
  open_ ++ String.intercalate ", " pieces ++ close

/-- Pieces between brackets, each on a line of its own, `depth` levels deep. -/
def bracketLines (open_ close : String) (depth : Nat) (pieces : List String) : String :=
  if pieces.isEmpty then open_ ++ close
  else
    let line (d : Nat) := "\n" ++ String.ofList (List.replicate (2 * d) ' ')
    open_ ++ line (depth + 1) ++ String.intercalate ("," ++ line (depth + 1)) pieces ++ line depth ++ close

mutual
/-- The value on one line. -/
def compact : Json → String
  | null => "null"
  | bool b => if b then "true" else "false"
  | int n => toString n
  | float x => Decimal.shortest x
  | text s => quote s
  | list items => bracket "[" "]" (compactItems items)
  | object members => bracket "\x7b" "\x7d" (compactMembers members)

/-- The items, each on one line. -/
def compactItems : List Json → List String
  | [] => []
  | v :: rest => compact v :: compactItems rest

/-- The members, each on one line. -/
def compactMembers : List (String × Json) → List String
  | [] => []
  | (name, v) :: rest => (quote name ++ ": " ++ compact v) :: compactMembers rest
end

mutual
/-- The value over several lines, `depth` levels deep. -/
def indentedAt (depth : Nat) : Json → String
  | list items => bracketLines "[" "]" depth (indentedItems (depth + 1) items)
  | object members => bracketLines "\x7b" "\x7d" depth (indentedMembers (depth + 1) members)
  | v => compact v

/-- The items, each over several lines. -/
def indentedItems (depth : Nat) : List Json → List String
  | [] => []
  | v :: rest => indentedAt depth v :: indentedItems depth rest

/-- The members, each over several lines. -/
def indentedMembers (depth : Nat) : List (String × Json) → List String
  | [] => []
  | (name, v) :: rest => (quote name ++ ": " ++ indentedAt depth v) :: indentedMembers depth rest
end

/-- The value over several lines. -/
def indented (v : Json) : String :=
  indentedAt 0 v

end RiskGauge.Json
