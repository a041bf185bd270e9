import RiskGauge.Reply.FileHint

/-!
# Code blocks of a reply

Code stands between fences of three backticks. The first line of a block is its language tag if it looks like
one, and is left out if it is blank.
-/

namespace RiskGauge

/-- A piece of code with the tag of its language and the file name that it asks for. -/
structure Snippet where
  language : String
  code : String
  suggested : Option String
deriving DecidableEq, Repr

namespace Snippet

/-- The language of a block without a tag. -/
def plaintext : String := "plaintext"

/-- A block between fences. -/
def fenced : Pattern :=
  .all [.exactly "```", .group 1 (.span (fun _ => true) 0 none true), .exactly "```"]

/-- Characters of language tags. -/
def isTagChar (c : Char) : Bool :=
  Text.isAsciiAlnum c || c == '+' || c == '#' || c == '.' || c == '_' || c == '-'

/-- The text can be a language tag. -/
def isTag (s : List Char) : Bool :=
  !s.isEmpty && s.length ≤ 20 && s.all isTagChar

/-- The snippet of the text between two fences. -/
def ofBody (body : List Char) : Snippet :=
  let first := body.takeWhile (· != '\n')
  match body.drop first.length with
  | [] => { language := plaintext, code := String.ofList body, suggested := none }
  | _ :: rest =>
    let tag := Text.trim first
    if isTag tag then
      { language := String.ofList tag, code := String.ofList rest, suggested := FileHint.find? rest }
    else if tag.isEmpty then
      { language := plaintext, code := String.ofList rest, suggested := FileHint.find? rest }
    else { language := plaintext, code := String.ofList body, suggested := none }

/-- The texts between the fences of a reply. -/
def bodies (text : List Char) : List (List Char) :=
  (fenced.findAll text).map (·.group 1)

/-- The snippets of a reply. -/
def ofReply (text : List Char) : List Snippet :=
  (bodies text).map ofBody

/-- There is no block at an index. -/
structure BlockError where
  index : Int
  count : Nat
deriving DecidableEq, Repr

/-- The wording of the error. -/
def BlockError.message (e : BlockError) : String :=
  s!"block {e.index} out of range: reply has {e.count} code block(s)"

/-- The block at an index; negative ones count from the end, and without an index it is the last one. -/
def choose (blocks : List Snippet) (index : Option Int) : Except BlockError Snippet :=
  let i := index.getD (-1)
  let place := if i < 0 then i + blocks.length else i
  match if place < 0 then none else blocks[place.toNat]? with
  | some s => .ok s
  | none => .error { index := i, count := blocks.length }

/-- The snippet of a reply that counts. A file name in the reply as a whole wins over one in the block. A
reply without blocks is a snippet as it stands. -/
def primary (text : List Char) (index : Option Int) : Except BlockError Snippet :=
  let hint := FileHint.find? text
  match ofReply text with
  | [] => .ok { language := plaintext, code := String.ofList text, suggested := hint }
  | blocks => do
    let chosen ← choose blocks index
    return { chosen with suggested := hint <|> chosen.suggested }

end Snippet

end RiskGauge
