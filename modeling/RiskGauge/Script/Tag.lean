import RiskGauge.Text.PathName

/-!
# Language tags

The tag of a code block, or the ending of a file name, says in which language a source is written.
-/

namespace RiskGauge.Tag

/-- The tag of a file name: its ending in small letters. -/
def ofPath? (path : String) : Option String :=
  let tail := PathName.ending (PathName.forwardSlashes path.toList)
  let tag := Text.lowercase (tail.dropWhile (· == '.'))
  if tag.isEmpty then none else some (String.ofList tag)

/-- The tags of languages for which call graphs are built. -/
def graphTags : List String :=
  ["", "plaintext", "text", "ts", "tsx", "mts", "cts", "typescript", "js", "jsx", "mjs", "cjs", "javascript",
    "node"]

/-- Call graphs are built for sources with this tag. -/
def hasGraph (tag : String) : Bool :=
  graphTags.contains (String.ofList (Text.lowercase (Text.trim tag.toList)))

end RiskGauge.Tag
