import Storyboard.Tree.Basic

/-!
# Taking nodes out of a tree

A node leaves the tree together with everything below it.  A declaration block that fails is undone:
the node it was opened for is removed, then the screens declared since, and the context is that of
before.  A tree that was cleared in between is left alone.
-/

namespace Storyboard.Tree

variable {κ : Type}

/-! ## Removal -/

/-- Forgets one node and nothing below it. -/
def forget (tree : Tree κ) (id : NodeId) : Tree κ :=
  { tree with
    nodes := tree.nodes.erase id
    children := tree.children.erase id
    parents := tree.parents.erase id }

/-- Forgets the nodes of a queue and everything below them, level by level. -/
def forgetAll (tree : Tree κ) : List NodeId → Tree κ
  | [] => tree
  | id :: queue => forgetAll (tree.forget id) (queue ++ tree.childrenOf id)
termination_by queue => (tree.children.size, queue.length)
decreasing_by
  cases hchildren : tree.children.get? id with
  | none =>
      have hle : (tree.forget id).children.size ≤ tree.children.size :=
        Registry.size_erase_le _ _
      rcases Nat.lt_or_eq_of_le hle with hlt | heq
      · exact Prod.Lex.left _ _ hlt
      · rw [heq]
        exact Prod.Lex.right _ (by simp [childrenOf, hchildren])
  | some below => exact Prod.Lex.left _ _ (Registry.size_erase_lt hchildren)

/-- Takes a node out of the list it stands in: that of its parent or that of the screens. -/
def detach (tree : Tree κ) (id : NodeId) : Tree κ :=
  { tree with
    children :=
      match tree.parent? id with
      | none => tree.children
      | some parent => tree.children.modify parent (·.filter (· ≠ id))
    screens := tree.screens.filter (· ≠ id) }

/-- Removes a node and everything below it.  A node that is not in the tree changes nothing. -/
def remove (tree : Tree κ) (id : NodeId) : Tree κ :=
  if tree.contains id then (tree.detach id).forgetAll [id] else tree

/-! ## Undoing a block -/

/-- What is remembered of a tree before a block is run. -/
structure Checkpoint where
  screens : Nat
  context : Context
  /-- How often the tree had been cleared. -/
  generation : Nat

/-- What has to be remembered of the tree. -/
def checkpoint (tree : Tree κ) : Checkpoint :=
  { screens := tree.screens.length, context := tree.context, generation := tree.generation }

/-- Removes the given number of screens, the last one first. -/
def dropScreens (tree : Tree κ) : Nat → Tree κ
  | 0 => tree
  | count + 1 =>
      match tree.screens.getLast? with
      | none => tree
      | some screen =>
          dropScreens ({ tree with screens := tree.screens.dropLast }.remove screen) count

/-- Undoes a failed block: removes the node it was opened for and the screens declared since, and
puts the context back.  If the tree has been cleared since, nothing is done. -/
def rollback (tree : Tree κ) (before : Checkpoint) (id : NodeId) : Tree κ :=
  if before.generation = tree.generation then
    let without := tree.remove id
    { without.dropScreens (without.screens.length - before.screens) with
      context := before.context }
  else
    tree

end Storyboard.Tree
