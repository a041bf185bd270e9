import RiskGauge.File.Error
import RiskGauge.Text.PathName

/-!
# Files in memory

A `FileTree` holds the contents of files by the parts of their paths. A directory is there if a file is in it.
-/

namespace RiskGauge

/-- The files of a directory. -/
structure FileTree where
  files : List (List (List Char) × ByteArray)

namespace FileTree

/-- The files with the given paths. -/
def ofList (files : List (String × ByteArray)) : FileTree where
  files := files.map fun (path, content) => (PathName.parts path.toList, content)

/-- The content of the file with the given parts. -/
def file? (t : FileTree) (parts : List (List Char)) : Option ByteArray :=
  (t.files.find? fun f => f.1 == parts).map Prod.snd

/-- There is a directory with the given parts. -/
def hasDirectory (t : FileTree) (parts : List (List Char)) : Bool :=
  parts.isEmpty || t.files.any fun f => parts.length < f.1.length && f.1.take parts.length == parts

/-- Follows the parts of a path from a directory, whose parts are given. Two dots lead to the directory around
it; what is around the tree cannot be reached. -/
def follow (t : FileTree) (path : String) (directory : List (List Char)) :
    List (List Char) → Except FileError ByteArray
  | [] => .error (.isDirectory path)
  | ['.', '.'] :: rest =>
    if directory.isEmpty then .error (.notFound path) else t.follow path directory.dropLast rest
  | part :: rest =>
    let here := directory ++ [part]
    match t.file? here with
    | some content => if rest.isEmpty then .ok content else .error (.notDirectory path)
    | none => if t.hasDirectory here then t.follow path here rest else .error (.notFound path)

/-- The content of the file at a path. -/
def read (t : FileTree) (path : String) : Except FileError ByteArray :=
  let shown := String.ofList (PathName.normal path.toList)
  if path.toList.contains (Char.ofNat 0) then .error .badName
  else if path.startsWith "/" then .error (.notFound shown)
  else t.follow shown [] (PathName.parts path.toList)

end FileTree

end RiskGauge
