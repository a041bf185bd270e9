import RiskGauge.Pattern.Build

/-!
# Signs of calls to the outside

The network, databases and the file system.
-/

namespace RiskGauge.External

open Pattern

/-- A name that stands for the network or a database. -/
def networkWord : Pattern :=
  all [edge, any (["fetch", "axios", "request", "http.", "https.", "jdbc", "mongo", "redis", "sequelize",
    "prisma"].map anyCase), edge]

/-- A call to the file system. -/
def fileCall : Pattern :=
  any [all [edge, anyCase "fs.",
      any (["read", "write", "append", "unlink", "readdir", "chmod", "chown"].map anyCase)],
    anyCase "open(", anyCase "readFileSync", seq (anyCase "writeFileSync") edge]

/-- What the look of a source says about calls to the outside. -/
structure Signals where
  networkCalls : Nat := 0
  fileCalls : Nat := 0
deriving DecidableEq, Repr

/-- The reasons behind the signals. -/
def Signals.reasons (s : Signals) : List String :=
  (if s.networkCalls = 0 then []
    else [s!"Detected {s.networkCalls} external network/DB calls (fetch/axios/http*/DB client)."])
    ++ (if s.fileCalls = 0 then []
      else [s!"Detected {s.fileCalls} file-system I/O calls (fs.*, readFileSync, writeFileSync, etc.)."])

/-- The signs of calls to the outside in a source. -/
def scan (text : List Char) : Signals :=
  { networkCalls := networkWord.count text, fileCalls := fileCall.count text }

end RiskGauge.External
