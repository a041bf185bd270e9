import RiskGauge.SyntaxTree
import RiskGauge.Script.Grammar
import RiskGauge.Text.CharClass

/-!
# Declarations that make up an API

`Api.signatures` lists the declarations of a source, each with its kind, its name and its text. The text
is that of the whole statement, with the `export` in front of it.
-/

namespace RiskGauge

/-- A reader of sources: the tree of a text, or nothing. -/
abbrev SourceReader := Grammar → List Char → Option SyntaxTree

namespace SyntaxTree

/-- The node whose text is the whole statement: the export above it, or the node itself. -/
def Visit.statement (v : Visit) : SyntaxTree :=
  match v.parent with
  | some p => if p.kind = .exportStatement then p else v.tree
  | none => v.tree

/-- The text of a node. -/
def text (source : List Char) (t : SyntaxTree) : String :=
  t.span.text source

/-- The text of a node that may be missing. -/
def textOf (source : List Char) : Option SyntaxTree → String
  | some t => t.text source
  | none => ""

/-- The node is a function that can be a value. -/
def isFunctionValue (t : SyntaxTree) : Bool :=
  t.kind = .arrowFunction || t.kind = .functionExpression || t.kind = .generatorFunction

/-- A statement of bindings. -/
def isBindingStatement (t : SyntaxTree) : Bool :=
  t.kind = .lexicalDeclaration || t.kind = .variableDeclaration

/-- The function that a binding has as its value. -/
def functionValue? (t : SyntaxTree) : Option SyntaxTree :=
  if t.kind = .declarator then (t.child? .value).filter isFunctionValue else none

end SyntaxTree

namespace Api

/-- The kinds of declarations. -/
inductive Kind where
  | function
  | classDecl
  | interface
  | type
  | var
deriving DecidableEq, Repr

/-- The name of a kind. -/
def Kind.name : Kind → String
  | function => "function"
  | classDecl => "class"
  | interface => "interface"
  | type => "type"
  | var => "var"

/-- A declaration with its text. -/
structure Signature where
  kind : Kind
  name : String
  text : String
deriving DecidableEq, Repr

/-- The kind of a declaration other than a binding. -/
def kind? : NodeKind → Option Kind
  | .functionDeclaration => some .function
  | .generatorDeclaration => some .function
  | .classDeclaration => some .classDecl
  | .abstractClassDeclaration => some .classDecl
  | .interfaceDeclaration => some .interface
  | .typeAlias => some .type
  | _ => none

/-- The declaration that a node makes. A statement of bindings makes one if some binding is a function, and
has its name from the first such binding. -/
def signature? (source : List Char) (v : SyntaxTree.Visit) : Option Signature :=
  match kind? v.tree.kind with
  | some kind =>
    (v.tree.child? .name).map fun name =>
      { kind, name := name.text source, text := v.statement.text source }
  | none =>
    if v.tree.isBindingStatement then
      (v.tree.children.find? (·.functionValue?.isSome)).map fun binding =>
        { kind := .var
          name := SyntaxTree.textOf source (binding.child? .name)
          text := v.statement.text source }
    else none

/-- The declarations of a tree in the order in which they begin. -/
def signaturesOf (source : List Char) (tree : SyntaxTree) : List Signature :=
  tree.walk.filterMap (signature? source)

/-- The declarations of a source; none if it is blank or cannot be read. -/
def signatures (reader : SourceReader) (grammar : Grammar) (source : List Char) : List Signature :=
  if Text.isBlankText source then []
  else
    match reader grammar source with
    | none => []
    | some tree => signaturesOf source tree

end Api

end RiskGauge
