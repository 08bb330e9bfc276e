import Storyboard.Tree.Basic

/-!
# Document order

A walk visits each screen and then everything below it before it goes on to the next screen; parents
come before their children, and children in order.  Queries answer with nodes in this order.
-/

namespace Storyboard.Tree

variable {κ : Type}

/-- Visits the nodes of a stack, each followed by everything below it, in at most `fuel` visits. -/
def visit (tree : Tree κ) : Nat → List NodeId → List NodeId
  | 0, _ => []
  | _ + 1, [] => []
  | fuel + 1, id :: stack =>
      if tree.contains id then id :: tree.visit fuel (tree.childrenOf id ++ stack)
      else tree.visit fuel stack

/-- A node and everything below it; nothing if the node is not in the tree.  No node is visited
twice, so the number of nodes bounds the visits. -/
def walkFrom (tree : Tree κ) (start : NodeId) : List NodeId :=
  tree.visit (tree.size + 1) [start]

/-- Every node in document order. -/
def walk (tree : Tree κ) : List NodeId :=
  tree.screens.flatMap tree.walkFrom

/-- Whether the node is in the tree and passes the test. -/
def satisfies (tree : Tree κ) (test : Node κ → Bool) (id : NodeId) : Bool :=
  match tree.get? id with
  | none => false
  | some node => test node

/-- The first node in document order with the given id. -/
def queryId? (tree : Tree κ) (id : String) : Option NodeId :=
  tree.walk.find? (tree.satisfies fun node => node.id = id)

/-- All nodes that pass a test, in document order. -/
def query (tree : Tree κ) (test : Node κ → Bool) : List NodeId :=
  tree.walk.filter (tree.satisfies test)

/-- All nodes of a type, in document order. -/
def queryType (tree : Tree κ) (typeName : String) : List NodeId :=
  tree.query fun node => node.typeName = typeName

end Storyboard.Tree
