import RiskGauge.Pattern.Build

/-!
# Types of YAML nodes

The type of a node is given by its tag. A plain scalar without a tag has the type whose way of writing it
follows; otherwise it is a text.
-/

namespace RiskGauge.Yaml

/-- The type of a node. -/
inductive Tag where
  | null
  | bool
  | int
  | float
  | timestamp
  /-- The key that brings in the pairs of other mappings. -/
  | merge
  /-- The key for a value that has no other name. -/
  | value
  | text
  | list
  | map
  /-- A type that is not known. -/
  | other
deriving DecidableEq, Repr

namespace Tag

/-- The address in front of the names of the types of the standard. -/
def standardAddress : List Char :=
  "tag:yaml.org,2002:".toList

/-- The type with an address. -/
def ofAddress (address : List Char) : Tag :=
  if address.take standardAddress.length == standardAddress then
    match String.ofList (address.drop standardAddress.length) with
    | "null" => null
    | "bool" => bool
    | "int" => int
    | "float" => float
    | "timestamp" => timestamp
    | "str" => text
    | "seq" => list
    | "map" => map
    | _ => other
  else other

open Pattern

/-- A digit or an underscore. -/
def isGroupedDigit (c : Char) : Bool :=
  Text.isAsciiDigit c || c == '_'

/-- A hexadecimal digit. -/
def isHexDigit (c : Char) : Bool :=
  Text.isAsciiDigit c || ('a' ≤ c && c ≤ 'f') || ('A' ≤ c && c ≤ 'F')

/-- A digit. -/
def digit : Pattern := .one Text.isAsciiDigit

/-- A plus or a minus. -/
def sign : Pattern := .one fun c => c == '+' || c == '-'

/-- A digit and the digits and underscores behind it. -/
def groupedDigits : Pattern := .all [digit, .many isGroupedDigit]

/-- The places of a number to the base sixty, each behind a colon. -/
def sixties : Pattern :=
  .loop (.all [.char ':', .optional (.one fun c => '0' ≤ c && c ≤ '5'), digit]) 1 none false

/-- A power of ten with its sign. -/
def power : Pattern :=
  .all [.one fun c => c == 'e' || c == 'E', sign, .some1 Text.isAsciiDigit]

/-- One of the texts. -/
def oneOf (words : List String) : Pattern :=
  .any (words.map .exactly)

/-- How truth values are written. -/
def boolForm : Pattern :=
  oneOf ["yes", "Yes", "YES", "no", "No", "NO", "true", "True", "TRUE", "false", "False", "FALSE", "on", "On", "ON",
    "off", "Off", "OFF"]

/-- How fractions are written. A power of ten needs a point in front of it and a sign. -/
def floatForm : Pattern :=
  .any [.all [.optional sign, groupedDigits, .char '.', .many isGroupedDigit, .optional power],
    .all [.char '.', groupedDigits, .optional power],
    .all [.optional sign, groupedDigits, sixties, .char '.', .many isGroupedDigit],
    .all [.optional sign, .char '.', oneOf ["inf", "Inf", "INF"]],
    .all [.char '.', oneOf ["nan", "NaN", "NAN"]]]

/-- How whole numbers are written: to the base two, eight, ten, sixteen or sixty. -/
def intForm : Pattern :=
  let first : Pattern := .one fun c => '1' ≤ c && c ≤ '9'
  .all [.optional sign,
    .any [.all [.exactly "0b", .some1 fun c => c == '0' || c == '1' || c == '_'],
      .all [.char '0', .some1 fun c => ('0' ≤ c && c ≤ '7') || c == '_'],
      .char '0',
      .all [.exactly "0x", .some1 fun c => isHexDigit c || c == '_'],
      .all [first, .many isGroupedDigit, .optional sixties]]]

/-- How dates are written, with the time of day or without. -/
def timestampForm : Pattern :=
  let digits (least most : Nat) : Pattern := .counted Text.isAsciiDigit least most
  let gap (least : Nat) : Pattern := .span (fun c => c == ' ' || c == '\t') least none false
  let time : Pattern := .all [.either (.one fun c => c == 'T' || c == 't') (gap 1), digits 1 2, .char ':', digits 2 2,
    .char ':', digits 2 2, .optional (.all [.char '.', .many Text.isAsciiDigit]),
    .optional (.all [gap 0, .either (.char 'Z') (.all [sign, digits 1 2, .optional (.all [.char ':', digits 2 2])])])]
  .either (.all [digits 4 4, .char '-', digits 2 2, .char '-', digits 2 2])
    (.all [digits 4 4, .char '-', digits 1 2, .char '-', digits 1 2, time])

/-- The whole text has the form. -/
def hasForm (form : Pattern) (text : List Char) : Bool :=
  Pattern.occursIn (.all [.place .textStart, form, .place .lastLineEnd]) text

/-- The type of a plain scalar without a tag. -/
def ofPlain (text : List Char) : Tag :=
  if hasForm boolForm text then bool
  else if hasForm floatForm text then float
  else if hasForm intForm text then int
  else if text == ['<', '<'] then merge
  else if text == [] || text == ['~'] || hasForm (oneOf ["null", "Null", "NULL"]) text then null
  else if hasForm timestampForm text then timestamp
  else if text == ['='] then value
  else Tag.text

end Tag

end RiskGauge.Yaml
