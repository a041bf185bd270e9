import RiskGauge.Text.PathName

/-!
# Core modules
-/

namespace RiskGauge.CorePath

/-- The names of folders that hold the core of a program. -/
def folders : List String :=
  ["core", "service", "domain"]

/-- One of the folders of a path holds the core of a program. -/
def isCore (path : String) : Bool :=
  (PathName.parts (PathName.forwardSlashes path.toList)).dropLast.any fun part =>
    folders.contains (String.ofList (Text.lowercase part))

end RiskGauge.CorePath
