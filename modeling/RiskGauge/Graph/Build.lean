import RiskGauge.Entries
import RiskGauge.Graph.Declaration
import RiskGauge.Graph.Entrypoint

/-!
# The call graph of a source

Declarations of the same name are one node. A call leads to the node of the name that is called, whatever
the name means at that place; calls of other names are left out. Without an earlier version of the source
everything counts as changed.
-/

namespace RiskGauge.CallGraph

/-- The nodes of all declarations, and the id of each declaration. -/
def addDeclarations (g : CallGraph) : List Declaration → CallGraph × List Nat
  | [] => (g, [])
  | d :: rest =>
    let (g, id) := g.addNode (d.toNode g.unit)
    let (g, ids) := addDeclarations g rest
    (g, id :: ids)

/-- The edge to a name, if it is the name of a node. -/
def addCall (source : Nat) (g : CallGraph) (name : String) : CallGraph :=
  match g.idOf? name with
  | some target => (g.addEdge source target).1
  | none => g

/-- The edges for the calls inside of declarations, given with their ids. -/
def addCalls (source : List Char) (g : CallGraph) (ds : List (Declaration × Nat)) : CallGraph :=
  ds.foldl (fun g (d, id) => (d.calledNames source).foldl (addCall id) g) g

/-- The nodes at which the source is probably entered. -/
def probableEntrypoints (source : List Char) (g : CallGraph) : List Int :=
  g.ids.filter fun id =>
    (itemAt? g.nodes id).any fun n => Entrypoint.isProbable n.key.name n.exported source

/-- The text of the last declaration of each name. -/
def latestTexts (ds : List Declaration) : Entries String :=
  Entries.ofPairs (ds.map fun d => (d.name, d.text))

/-- The nodes with a declaration that is new or has another text than before. -/
def changedSince (before : Entries String) (ds : List (Declaration × Nat)) : List Int :=
  distinct ((ds.filter fun (d, _) => before.find? d.name ≠ some d.text).map fun (_, id) => Int.ofNat id)

/-- The changed nodes: all of them without an earlier version or with one that cannot be read. -/
def changedIds (reader : SourceReader) (grammar : Grammar) (g : CallGraph) (ds : List (Declaration × Nat)) :
    Option (List Char) → List Int
  | none => g.ids
  | some before =>
    if Text.isBlankText before then changedSince [] ds
    else
      match reader grammar before with
      | none => g.ids
      | some tree => changedSince (latestTexts (Declaration.ofTree before tree)) ds

/-- The call graph of a tree. -/
def ofTree (reader : SourceReader) (unit : String) (grammar : Grammar) (source : List Char) (tree : SyntaxTree)
    (before : Option (List Char)) : CallGraph :=
  let declarations := Declaration.ofTree source tree
  let (g, ids) := addDeclarations { unit } declarations
  let numbered := declarations.zip ids
  let g := { g with entrypoints := g.probableEntrypoints source }
  let g := g.addCalls source numbered
  { g with changed := changedIds reader grammar g numbered before }

/-- The call graph of a source; empty if it is blank or cannot be read. -/
def build (reader : SourceReader) (unit : String) (grammar : Grammar) (source : List Char)
    (before : Option (List Char)) : CallGraph :=
  if Text.isBlankText source then { unit }
  else
    match reader grammar source with
    | none => { unit }
    | some tree => ofTree reader unit grammar source tree before

end RiskGauge.CallGraph
