import Storyboard.Tree.Access

/-!
# Locations

A location names a node by its way from the top: the place of its screen, then its place among the
children at each level.
-/

namespace Storyboard

/-- Where a node is. -/
inductive Location where
  /-- The places from the screen down to the node. -/
  | at (places : List Nat)
  /-- Nowhere: the node has left the tree. -/
  | gone
  deriving DecidableEq

/-- How a node is referred to. -/
inductive Reference where
  /-- By the name that was given to it when it was declared. -/
  | named (name : String)
  | path (indices : List Int)

namespace Tree

variable {κ : Type}

/-- The places from the screen down to a node, climbing at most `levels` levels. -/
def placesOf (tree : Tree κ) : Nat → NodeId → Option (List Nat)
  | 0, _ => none
  | levels + 1, id =>
      match tree.parent? id with
      | none => (tree.screens.idxOf? id).map ([·])
      | some parent =>
          match tree.placesOf levels parent, (tree.childrenOf parent).idxOf? id with
          | some above, some place => some (above ++ [place])
          | _, _ => none

/-- Where a node is in the tree. -/
def locate (tree : Tree κ) (id : NodeId) : Location :=
  match tree.placesOf tree.size id with
  | some places => .at places
  | none => .gone

/-- The node at the end of a way down from a node. -/
def descend (tree : Tree κ) : NodeId → List Int → Except Error NodeId
  | id, [] => .ok id
  | id, index :: rest =>
      match tree.widgetAt id index with
      | .error error => .error error
      | .ok child => tree.descend child rest

/-- The node at the end of a way down from the top. -/
def follow (tree : Tree κ) : List Int → Except Error NodeId
  | [] => .error .unknownNode
  | index :: rest =>
      match tree.screenAt index with
      | .error error => .error error
      | .ok screen => tree.descend screen rest

end Tree

end Storyboard
