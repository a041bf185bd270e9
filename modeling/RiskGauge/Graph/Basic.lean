/-!
# Call graphs

The nodes of a `CallGraph` are declarations, numbered from zero in the order in which they were added.
Edges lead from a node to ids; an edge counts in the degrees of its two ends when it is new. Adding an
edge to an id that is no node fails, but the edge stays.
-/

namespace RiskGauge

/-- What identifies a node: the unit that it belongs to, and its name. -/
structure NodeKey where
  unit : String
  name : String
deriving DecidableEq, Repr

/-- The kinds of nodes. -/
inductive GraphNodeKind where
  | function
  | var
  | classDecl
deriving DecidableEq, Repr

/-- The name of a kind. -/
def GraphNodeKind.name : GraphNodeKind → String
  | function => "function"
  | var => "var"
  | classDecl => "class"

/-- A declaration in a graph. -/
structure GraphNode where
  key : NodeKey
  kind : GraphNodeKind
  firstLine : Nat
  lastLine : Nat
  text : String
  exported : Bool
deriving DecidableEq, Repr

/-- Why a step on a graph fails. -/
inductive GraphError where
  /-- There is no node with this id. -/
  | unknownId (id : Int)
  /-- An id is outside of the list of nodes. -/
  | outOfRange
deriving DecidableEq, Repr

/-- The wording of the error. -/
def GraphError.message : GraphError → String
  | unknownId id => toString id
  | outOfRange => "list index out of range"

/-- A call graph over one unit. -/
structure CallGraph where
  unit : String
  nodes : List GraphNode := []
  /-- The ids to which the edges of each node lead. -/
  edges : List (List Int) := []
  /-- The number of edges to each node. -/
  inDegree : List Nat := []
  /-- The number of edges from each node. -/
  outDegree : List Nat := []
  /-- The nodes at which the unit is entered. -/
  entrypoints : List Int := []
  /-- The nodes that were changed. -/
  changed : List Int := []
deriving Repr

namespace CallGraph

/-- The number of nodes. -/
def size (g : CallGraph) : Nat :=
  g.nodes.length

/-- The ids of all nodes. -/
def ids (g : CallGraph) : List Int :=
  (List.range g.size).map Int.ofNat

/-- The entry of a list for an id. -/
def itemAt? {α : Type} (xs : List α) (id : Int) : Option α :=
  if 0 ≤ id then xs[id.toNat]? else none

/-- The list with the entry for an id changed. -/
def changeAt {α : Type} (f : α → α) (xs : List α) (id : Int) : List α :=
  if 0 ≤ id then xs.modify id.toNat f else xs

/-- The place of a key among the nodes. -/
def index? (g : CallGraph) (key : NodeKey) : Option Nat :=
  g.nodes.findIdx? (·.key = key)

/-- The id of a name of this unit. -/
def idOf? (g : CallGraph) (name : String) : Option Nat :=
  g.index? { unit := g.unit, name }

/-- Adds a node and gives its id. A node with the same key stays as it is, but becomes exported if the new one
is. -/
def addNode (g : CallGraph) (n : GraphNode) : CallGraph × Nat :=
  match g.index? n.key with
  | some id =>
    ({ g with nodes := g.nodes.modify id fun old => { old with exported := old.exported || n.exported } }, id)
  | none =>
    ({ g with
        nodes := g.nodes ++ [n]
        edges := g.edges ++ [[]]
        inDegree := g.inDegree ++ [0]
        outDegree := g.outDegree ++ [0] }, g.size)

/-- Adds an edge and tells whether it is new. -/
def addEdge (g : CallGraph) (source target : Int) : CallGraph × Except GraphError Bool :=
  match itemAt? g.edges source with
  | none => (g, .error (.unknownId source))
  | some targets =>
    if target ∈ targets then (g, .ok false)
    else
      let g := { g with
        edges := changeAt (· ++ [target]) g.edges source
        outDegree := changeAt (· + 1) g.outDegree source }
      match itemAt? g.inDegree target with
      | none => (g, .error (.unknownId target))
      | some _ => ({ g with inDegree := changeAt (· + 1) g.inDegree target }, .ok true)

/-- A list with an id added, if it is not in it yet. -/
def insertId (ids : List Int) (id : Int) : List Int :=
  if id ∈ ids then ids else ids ++ [id]

/-- The ids of a list, each once. -/
def distinct (ids : List Int) : List Int :=
  ids.foldl insertId []

/-- The name of the node with an id; negative ids count from the end. -/
def nameAt (g : CallGraph) (id : Int) : Except GraphError String :=
  let place := if id < 0 then id + g.size else id
  match itemAt? g.nodes place with
  | some n => .ok n.key.name
  | none => .error .outOfRange

/-- The names of several nodes. -/
def names (g : CallGraph) (ids : List Int) : Except GraphError (List String) :=
  ids.mapM g.nameAt

end CallGraph

end RiskGauge
