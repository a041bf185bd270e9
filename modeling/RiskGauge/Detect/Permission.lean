import RiskGauge.Pattern.Build
import RiskGauge.Scalar

/-!
# Sensitive permissions and packages of bad repute
-/

namespace RiskGauge.Permission

open Pattern

/-- Another process is started. -/
def processStart : Pattern :=
  seq edge (any (["child_process", "exec(", "spawn(", "system(", "popen(", "subprocess."].map anyCase))

/-- The file system is changed. -/
def fileChange : Pattern :=
  all [edge, anyCase "fs.", optional (anyCase "promises."),
    any (["write", "append", "unlink", "rm", "rmdir", "mkdir", "rename", "copyFile", "chmod", "chown"].map anyCase)]

/-- Secrets are read. -/
def secretAccess : Pattern :=
  any [all [edge, anyCase "process.env", edge], anyCase "secret", anyCase "password", anyCase "credential"]

/-- A package that is known to be bad. -/
def badPackage : Pattern :=
  let dash := optional (one fun c => c == '_' || c == '-')
  all [anyCase "vulnerable", dash, anyCase "pkg", dash, anyCase "2023"]

variable {α : Type} [Scalar α]

/-- The risk of the permissions that a source uses. -/
def risk (text : List Char) : α :=
  let add (p : Pattern) (weight sum : α) : α := if p.occursIn text then sum + weight else sum
  Scalar.clamp (add secretAccess 0.3 (add fileChange 0.3 (add processStart 0.4 0.0)))

/-- The repute of the packages that a source uses. -/
def reputation (text : List Char) : α :=
  if badPackage.occursIn text then 0.1 else 0.65

end RiskGauge.Permission
