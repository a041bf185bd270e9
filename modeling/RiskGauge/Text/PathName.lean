import RiskGauge.Text.Case

/-!
# Names of files

The parts of a path between slashes; empty parts and single dots do not count.
-/

namespace RiskGauge.PathName

/-- The pieces of a text between the characters that pass a test; `piece` is the current one, last character
first. -/
def splitFrom (isCut : Char → Bool) (piece : List Char) : List Char → List (List Char)
  | [] => [piece.reverse]
  | c :: rest =>
    if isCut c then piece.reverse :: splitFrom isCut [] rest else splitFrom isCut (c :: piece) rest

/-- The pieces of a text between the characters that pass a test. -/
def split (isCut : Char → Bool) (s : List Char) : List (List Char) :=
  splitFrom isCut [] s

/-- The parts of a path. -/
def parts (path : List Char) : List (List Char) :=
  (split (· == '/') path).filter fun p => !p.isEmpty && p != ['.']

/-- The last part of a path, empty if it has none. -/
def fileName (path : List Char) : List Char :=
  (parts path).getLast?.getD []

/-- The ending of a file name from its last dot on. A dot in front of the name or behind it does not count. -/
def ending (path : List Char) : List Char :=
  let name := fileName path
  let tail := (name.reverse.takeWhile (· != '.')).reverse
  if tail.isEmpty || name.length ≤ tail.length + 1 then [] else '.' :: tail

/-- The path as it is written with single slashes: an absolute one begins with one slash, or with two if it
was written with exactly two. -/
def normal (path : List Char) : List Char :=
  let root := match path with
    | '/' :: '/' :: '/' :: _ => ['/']
    | '/' :: '/' :: _ => ['/', '/']
    | '/' :: _ => ['/']
    | _ => []
  let body := root ++ (['/'].intercalate (parts path))
  if body.isEmpty then ['.'] else body

/-- The path with slashes for backslashes. -/
def forwardSlashes (path : List Char) : List Char :=
  path.map fun c => if c == '\\' then '/' else c

end RiskGauge.PathName
