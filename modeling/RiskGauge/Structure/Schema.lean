import RiskGauge.Pattern.Build

/-!
# Changes of a database schema
-/

namespace RiskGauge.Schema

open Pattern

/-- A word at its full length. -/
def wholeWord (s : String) : Pattern :=
  all [edge, anyCase s, edge]

/-- A statement about a table, or a migration. -/
def tableStatement : Pattern :=
  let about (verb : String) := all [anyCase verb, gap, anyCase "table"]
  all [edge, any [about "alter", about "create", about "drop", anyCase "migration"], edge]

/-- An entity, a column or a migration of an object mapper. -/
def mappedEntity : Pattern :=
  any [seq (anyCase "@Entity") edge, seq (anyCase "@Column") edge, wholeWord "PrimaryGeneratedColumn",
    wholeWord "MigrationInterface"]

/-- A model with a body between braces. -/
def modelBody : Pattern :=
  let anything (least : Nat) := span (fun _ => true) least none true
  all [edge, anyCase "model", edge, anything 1, char '\x7b', anything 0, char '\x7d']

/-- The name of a tool for models. -/
def modelTool : Pattern :=
  anyCase "prisma"

/-- The definition of a model, or a table made or dropped by a migration. -/
def tableCall : Pattern :=
  any [wholeWord "sequelize.define", wholeWord "queryInterface.createTable", wholeWord "queryInterface.dropTable"]

/-- The signs of a change of a schema in a source. -/
def findings (text : List Char) : List String :=
  (if tableStatement.occursIn text then ["SQL DDL keyword (ALTER/CREATE/DROP TABLE/MIGRATION) detected"] else [])
    ++ (if mappedEntity.occursIn text then ["TypeORM entity/migration pattern detected"] else [])
    ++ (if modelBody.occursIn text && modelTool.occursIn text then
      ["Prisma schema-like model definition detected"] else [])
    ++ (if tableCall.occursIn text then ["Sequelize migration/queryInterface pattern detected"] else [])

/-- A schema seems to change. -/
def changes (text : List Char) : Bool :=
  !(findings text).isEmpty

/-- The signs in words. -/
def reason (text : List Char) : String :=
  if changes text then String.intercalate "; " (findings text) else "no schema change detected"

end RiskGauge.Schema
