import RiskGauge.Api.Signature
import RiskGauge.Graph.Basic

/-!
# Declarations as nodes of a graph

Functions, classes, and bindings whose value is a function; and the names that are called inside of them.
-/

namespace RiskGauge

/-- A declaration with the part of the tree in which its calls are. -/
structure Declaration where
  name : String
  kind : GraphNodeKind
  exported : Bool
  body : SyntaxTree
  text : String
  firstLine : Nat
  lastLine : Nat

namespace Declaration

/-- The kind of a declaration other than a binding. -/
def kind? : NodeKind → Option GraphNodeKind
  | .functionDeclaration => some .function
  | .generatorDeclaration => some .function
  | .classDeclaration => some .classDecl
  | .abstractClassDeclaration => some .classDecl
  | _ => none

/-- A declaration whose name, lines and body are those of given nodes. -/
def ofNode (source : List Char) (v : SyntaxTree.Visit) (kind : GraphNodeKind) (name : Option SyntaxTree)
    (place body : SyntaxTree) : Declaration where
  name := SyntaxTree.textOf source name
  kind := kind
  exported := v.statement.kind = .exportStatement
  body := body
  text := v.statement.text source
  firstLine := lineAt source place.span.start
  lastLine := lineAt source place.span.stop

/-- The declarations that a node makes: a statement of bindings makes one for each function. -/
def ofVisit (source : List Char) (v : SyntaxTree.Visit) : List Declaration :=
  match kind? v.tree.kind with
  | some kind =>
    match v.tree.child? .name with
    | some name => [ofNode source v kind (some name) v.tree v.tree]
    | none => []
  | none =>
    if v.tree.isBindingStatement then
      v.tree.children.filterMap fun binding =>
        binding.functionValue?.map fun value =>
          ofNode source v .var (binding.child? .name) binding value
    else []

/-- The declarations of a tree in the order in which they begin. -/
def ofTree (source : List Char) (tree : SyntaxTree) : List Declaration :=
  tree.walk.flatMap (ofVisit source)

/-- The name that is called: the name itself, or the last property of an access. -/
def calleeName? (source : List Char) (call : SyntaxTree) : Option String := do
  let callee ← call.child? .callee
  match callee.kind with
  | .identifier => return callee.text source
  | .member =>
    let property ← callee.child? .property
    if property.kind = .propertyName then return property.text source else none
  | _ => none

/-- The names that are called inside of a declaration. -/
def calledNames (source : List Char) (d : Declaration) : List String :=
  d.body.walk.filterMap fun v =>
    if v.tree.kind = .call then (calleeName? source v.tree).filter (· ≠ "") else none

/-- The node for a declaration of a unit. -/
def toNode (unit : String) (d : Declaration) : GraphNode where
  key := { unit, name := d.name }
  kind := d.kind
  firstLine := d.firstLine
  lastLine := d.lastLine
  text := d.text
  exported := d.exported

end Declaration

end RiskGauge
