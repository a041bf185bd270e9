import RiskGauge.CommandLine.Run
import RiskGauge.Script.Parse
import RiskGauge.Text.PathName

/-!
# The program

Reads the arguments and the files of the system, and prints what the command gives.
-/

namespace RiskGauge.CommandLine

/-- The content of a file of the system. -/
def systemFile (path : String) : IO (Except FileError ByteArray) := do
  let shown := String.ofList (PathName.normal path.toList)
  if path.toList.contains (Char.ofNat 0) then return .error .badName
  try
    return .ok (← IO.FS.readBinFile shown)
  catch e =>
    match e with
    | .noFileOrDirectory .. => return .error (.notFound shown)
    | .inappropriateType _ code _ =>
      return .error (if code == 20 then .notDirectory shown else .isDirectory shown)
    | _ => return .error (.other shown)

/-- The system. A thousand calls may be under way, and ten are when a database is read. -/
def systemHost : Host IO where
  file := systemFile
  reader := Script.parse
  room := 990

/-- How the program is used. -/
def usage : String :=
  "usage: analyze FILE... | signatures FILE | diff PREVIOUS CURRENT"

/-- Prints how a run ended. -/
def Outcome.print (outcome : Outcome) : IO Unit := do
  match outcome with
  | .printed output => IO.print output.toText
  | .failed e => IO.eprintln ("\n" ++ errorText e)
  | .refused .help => IO.println usage
  | .refused .wrong => IO.eprintln usage

end RiskGauge.CommandLine

/-- The program. -/
def main (args : List String) : IO UInt32 := do
  let outcome ← RiskGauge.CommandLine.run RiskGauge.CommandLine.systemHost args
  outcome.print
  return UInt32.ofNat outcome.exitCode
