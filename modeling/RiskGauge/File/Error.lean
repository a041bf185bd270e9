import RiskGauge.Json.Printer

/-!
# Why a file is not read

The wording names the file between quotes.
-/

namespace RiskGauge

/-- Why a file is not read. -/
inductive FileError where
  | notFound (path : String)
  | isDirectory (path : String)
  | notDirectory (path : String)
  /-- The name of the file has a character of code zero. -/
  | badName
  | badEncoding
  | other (path : String)
deriving DecidableEq, Repr

namespace FileError

/-- A character between quotes. -/
def escaped (quote c : Char) : List Char :=
  if c == quote || c == '\\' then ['\\', c]
  else if c == '\n' then ['\\', 'n']
  else if c == '\r' then ['\\', 'r']
  else if c == '\t' then ['\\', 't']
  else
    let n := c.toNat
    if n < 0x20 || (0x7F ≤ n && n ≤ 0xA0) || n == 0xAD then
      ['\\', 'x', Json.hexDigit (n / 16), Json.hexDigit (n % 16)]
    else [c]

/-- A path between single quotes, or between double quotes if it has single ones only. -/
def quoted (path : String) : String :=
  let s := path.toList
  let quote := if s.contains '\'' && !s.contains '"' then '"' else '\''
  String.ofList (quote :: s.flatMap (escaped quote) ++ [quote])

/-- The wording of the error. -/
def message : FileError → String
  | notFound path => "[Errno 2] No such file or directory: " ++ quoted path
  | isDirectory path => "[Errno 21] Is a directory: " ++ quoted path
  | notDirectory path => "[Errno 20] Not a directory: " ++ quoted path
  | badName => "embedded null byte"
  | badEncoding => "'utf-8' codec can't decode the file"
  | other path => "[Errno 5] Input/output error: " ++ quoted path

end FileError

end RiskGauge
