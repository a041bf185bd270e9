/-!
# Trees of source texts

A `SyntaxTree` has a kind, the stretch of the text that it covers, and its parts in the order of the text.
Only the kinds of which something is asked later are told apart. `SyntaxTree.walk` lists all nodes of a
tree with the nodes above them.
-/

namespace RiskGauge

/-- What a node of a tree is. -/
inductive NodeKind where
  | functionDeclaration
  | generatorDeclaration
  | classDeclaration
  | abstractClassDeclaration
  | interfaceDeclaration
  | typeAlias
  /-- A statement of `let` or `const`. -/
  | lexicalDeclaration
  /-- A statement of `var`. -/
  | variableDeclaration
  /-- One of the bindings of such a statement. -/
  | declarator
  | exportStatement
  | call
  /-- An access to a property by its name. -/
  | member
  | identifier
  | propertyName
  | arrowFunction
  | functionExpression
  | generatorFunction
  | other
deriving DecidableEq, Repr

/-- The part that a node plays in the node above it. -/
inductive Role where
  /-- The name of a declaration or binding. -/
  | name
  /-- The value of a binding. -/
  | value
  /-- What is called. -/
  | callee
  /-- The property that is accessed. -/
  | property
  | plain
deriving DecidableEq, Repr

/-- A stretch of a text, in characters. -/
structure Span where
  start : Nat
  stop : Nat
deriving DecidableEq, Repr

/-- The characters of a stretch. -/
def Span.text (source : List Char) (s : Span) : String :=
  String.ofList ((source.drop s.start).take (s.stop - s.start))

/-- The line of an offset, counted from one. -/
def lineAt (source : List Char) (offset : Nat) : Nat :=
  (source.take offset).count '\n' + 1

/-- A tree over a text. -/
inductive SyntaxTree where
  | node (role : Role) (kind : NodeKind) (span : Span) (children : List SyntaxTree)

namespace SyntaxTree

/-- The part that the node plays in the one above it. -/
def role : SyntaxTree → Role
  | node r _ _ _ => r

/-- What the node is. -/
def kind : SyntaxTree → NodeKind
  | node _ k _ _ => k

/-- The stretch of the text that the node covers. -/
def span : SyntaxTree → Span
  | node _ _ s _ => s

/-- The parts of the node. -/
def children : SyntaxTree → List SyntaxTree
  | node _ _ _ cs => cs

/-- The same node in another role. -/
def withRole (r : Role) : SyntaxTree → SyntaxTree
  | node _ k s cs => node r k s cs

/-- The first part of the node that plays a role. -/
def child? (r : Role) (t : SyntaxTree) : Option SyntaxTree :=
  t.children.find? (·.role = r)

mutual
/-- The number of nodes. -/
def size : SyntaxTree → Nat
  | node _ _ _ cs => sizes cs + 1

/-- The number of nodes of several trees. -/
def sizes : List SyntaxTree → Nat
  | [] => 0
  | t :: rest => size t + sizes rest
end

/-- A node and the node above it. -/
structure Visit where
  tree : SyntaxTree
  parent : Option SyntaxTree

namespace Visit

/-- The parts of the node, to be visited. -/
def below (v : Visit) : List Visit :=
  v.tree.children.map fun t => { tree := t, parent := some v.tree }

/-- The number of nodes that are still to be visited. -/
def pending : List Visit → Nat
  | [] => 0
  | v :: rest => v.tree.size + pending rest

theorem pending_append (xs ys : List Visit) : pending (xs ++ ys) = pending xs + pending ys := by
  induction xs with
  | nil => simp [pending]
  | cons v rest ih => simp [pending, ih, Nat.add_assoc]

theorem pending_map (p : Option SyntaxTree) (ts : List SyntaxTree) :
    pending (ts.map fun t => { tree := t, parent := p }) = sizes ts := by
  induction ts with
  | nil => simp [pending, sizes]
  | cons t rest ih => simp [pending, sizes, ih]

theorem pending_below (v : Visit) : pending v.below + 1 = v.tree.size := by
  obtain ⟨⟨r, k, s, cs⟩, p⟩ := v
  simp [below, children, pending_map, size]

end Visit

/-- Visits what is on a stack and all that is below it, the top of the stack first. -/
def walkStack : List Visit → List Visit
  | [] => []
  | v :: stack => v :: walkStack (v.below ++ stack)
termination_by stack => Visit.pending stack
decreasing_by
  simp only [Visit.pending, Visit.pending_append]
  have := Visit.pending_below v
  omega

/-- All nodes of a tree, a node before its parts and the parts in their order. -/
def walk (t : SyntaxTree) : List Visit :=
  walkStack [{ tree := t, parent := none }]

end SyntaxTree

end RiskGauge
