import Storyboard.Tree.Basic

/-!
# Outline of a tree

A text with one line for each node, indented by two spaces for each node above it.  Lines are joined
by line feeds, with none at the end.
-/

namespace Storyboard.Tree

variable {κ : Type}

/-- The line of a node under `depth` others. -/
def indented (depth : Nat) (node : Node κ) : String :=
  String.ofList (List.replicate (2 * depth) ' ') ++ node.line

/-- The lines of a node and of everything below it, down to `levels` levels. -/
def outlineLines (tree : Tree κ) : Nat → Nat → NodeId → List String
  | 0, _, _ => []
  | levels + 1, depth, id =>
      match tree.get? id with
      | none => []
      | some node =>
          indented depth node
            :: (tree.childrenOf id).flatMap (tree.outlineLines levels (depth + 1))

/-- The outline of a node and everything below it; empty if the node is not in the tree.  There are
no more levels than nodes. -/
def outlineFrom (tree : Tree κ) (id : NodeId) : String :=
  "\n".intercalate (tree.outlineLines tree.size 0 id)

/-- The outline of the whole tree. -/
def outline (tree : Tree κ) : String :=
  "\n".intercalate (tree.screens.flatMap (tree.outlineLines tree.size 0))

end Storyboard.Tree
