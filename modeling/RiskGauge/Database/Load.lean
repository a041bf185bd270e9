import RiskGauge.Database.Document
import RiskGauge.Json.Reader
import RiskGauge.Text.PathName

/-!
# Databases from files

A file that is absent or that holds no JSON gives an empty database, or is refused if the caller wants it
so. A file that is not encoded as UTF-8, that holds a number of too many digits, or whose lists and
objects take up more room than there is, is always refused.
-/

namespace RiskGauge

/-- Why a database cannot be loaded. -/
inductive LoadError where
  | notFound (path : String)
  | unreadable (path : String)
  | badEncoding
  | numberTooLong (digits : Nat)
  | nestedTooDeep (container : Json.Container)
  | weightTooLarge (error : NumericError)
deriving DecidableEq, Repr

/-- The wording of the error. -/
def LoadError.message : LoadError → String
  | notFound path => s!"Signature database not found: {path}"
  | unreadable path => s!"Could not read signature database {path}"
  | badEncoding => "'utf-8' codec can't decode the database"
  | numberTooLong digits => Text.IntegerFault.message (.tooLong digits)
  | nestedTooDeep .list => "maximum recursion depth exceeded while decoding a JSON array from a unicode string"
  | nestedTooDeep .object => "maximum recursion depth exceeded while decoding a JSON object from a unicode string"
  | weightTooLarge error => error.message

/-- The path as databases name it. -/
def databasePath (path : String) : String :=
  String.ofList (PathName.normal path.toList)

/-- The document in a file; null without one. -/
def readDocument (room : Nat) (strict : Bool) (path : String) (content : Option ByteArray) : Except LoadError Json :=
  match content with
  | none => if strict then .error (.notFound (databasePath path)) else .ok .null
  | some bytes =>
    match String.fromUTF8? bytes with
    | none => .error .badEncoding
    | some text =>
      match Json.read room text.toList with
      | .ok v => .ok v
      | .error .malformed => if strict then .error (.unreadable (databasePath path)) else .ok .null
      | .error (.tooLong digits) => .error (.numberTooLong digits)
      | .error (.tooDeep container) => .error (.nestedTooDeep container)

/-- The rule database in a file. -/
def RuleDatabase.load (room : Nat) (strict : Bool) (path : String) (content : Option ByteArray) :
    Except LoadError (RuleDatabase Float) := do
  return (RuleDatabase.ofDocument (databasePath path) (← readDocument room strict path content)).1

/-- The vector database in a file. -/
def VectorDatabase.load (room : Nat) (strict : Bool) (path : String) (content : Option ByteArray) :
    Except LoadError (VectorDatabase Float) := do
  match VectorDatabase.ofDocument (databasePath path) (← readDocument room strict path content) with
  | .ok (db, _) => return db
  | .error e => throw (.weightTooLarge e)

end RiskGauge
