import Storyboard.Proofs.Tree.Undoing

/-!
# What old nodes hold

A tree keeps its old nodes if each of them that is still there holds what it held, as far as a view
of nodes shows it.  Declaring nodes and taking some away keeps the others under every view.  With
nothing new left, a restored tree is the tree from before up to the number of the next node
(`Restored.eq_self`).
-/

namespace Storyboard.Tree

variable {κ α : Type}

/-- What is left of the nodes of `before` looks in `after` as it did. -/
structure Keeps (view : Node κ → α) (before after : Tree κ) : Prop where
  next_le : before.next ≤ after.next
  view_eq : ∀ id node, id.number < before.next → after.get? id = some node →
    ∃ old, before.get? id = some old ∧ view node = view old

namespace Keeps

variable {view : Node κ → α} {before middle after : Tree κ}

theorem refl (tree : Tree κ) : Keeps view tree tree :=
  ⟨Nat.le_refl _, fun _ node _ hnode => ⟨node, hnode, rfl⟩⟩

theorem trans (hfirst : Keeps view before middle) (hsecond : Keeps view middle after) :
    Keeps view before after where
  next_le := Nat.le_trans hfirst.next_le hsecond.next_le
  view_eq id node hid hnode := by
    have hlt : id.number < middle.next := Nat.lt_of_lt_of_le hid hfirst.next_le
    obtain ⟨between, hbetween, hview⟩ := hsecond.view_eq id node hlt hnode
    obtain ⟨old, hold, hview'⟩ := hfirst.view_eq id between hid hbetween
    exact ⟨old, hold, hview.trans hview'⟩

/-- Taking nodes away keeps the others. -/
theorem of_subset (hnext : after.next = before.next)
    (hget : ∀ id node, after.get? id = some node → before.get? id = some node) :
    Keeps view before after :=
  ⟨Nat.le_of_eq hnext.symm, fun id node _ hnode => ⟨node, hget id node hnode, rfl⟩⟩

/-- Changing nodes without changing how they look keeps them. -/
theorem mapNodes (tree : Tree κ) (change : NodeId → Node κ → Node κ)
    (hview : ∀ id node, view (change id node) = view node) :
    Keeps view tree { tree with nodes := tree.nodes.mapValues change } where
  next_le := Nat.le_refl _
  view_eq id node _ hnode := by
    have hmapped : (tree.get? id).map (change id) = some node :=
      (Registry.get?_mapValues tree.nodes change id).symm.trans hnode
    obtain ⟨old, hold, rfl⟩ := Option.map_eq_some_iff.mp hmapped
    exact ⟨old, hold, hview id old⟩

/-- Changing a node that is new keeps the old ones. -/
theorem modify (h : Keeps view before after) {id : NodeId} (hnew : before.next ≤ id.number)
    (change : Node κ → Node κ) : Keeps view before (after.modify id change) where
  next_le := h.next_le
  view_eq other node hother hnode := by
    have hne : other ≠ id := by
      rintro rfl
      omega
    have hget : (after.modify id change).get? other = after.get? other :=
      (Registry.get?_modify _ _ _ _).trans (if_neg hne)
    exact h.view_eq other node hother (hget ▸ hnode)

theorem withScreen (tree : Tree κ) (node : Node κ) : Keeps view tree (tree.withScreen node) where
  next_le := Nat.le_succ _
  view_eq id kept hid hnode := by
    have hget : (tree.withScreen node).get? id = tree.get? id :=
      (tree.get?_insert node id).trans (if_neg (tree.ne_fresh hid))
    exact ⟨kept, hget ▸ hnode, rfl⟩

theorem insertChild (tree : Tree κ) (parent : NodeId) (node : Node κ) :
    Keeps view tree (tree.insertChild parent node).2 where
  next_le := Nat.le_succ _
  view_eq id kept hid hnode := by
    rw [get?_insertChild, if_neg (tree.ne_fresh hid)] at hnode
    exact ⟨kept, hnode, rfl⟩

theorem clear (tree : Tree κ) : Keeps view tree tree.clear where
  next_le := Nat.le_refl _
  view_eq id node _ hnode := by
    simp [Tree.clear, get?, Registry.get?, Registry.empty] at hnode

theorem rollback (tree : Tree κ) (before : Checkpoint) (id : NodeId) :
    Keeps view tree (tree.rollback before id) :=
  .of_subset (rollback_frame tree before id).2.2 fun _ _ => tree.get?_of_get?_rollback before id

end Keeps

/-! ## What every node holds -/

/-- Every node of the tree has a property. -/
def Holds (tree : Tree κ) (property : Node κ → Prop) : Prop :=
  ∀ id node, tree.get? id = some node → property node

namespace Holds

variable {property : Node κ → Prop} {tree after : Tree κ}

theorem of_subset (h : tree.Holds property)
    (hget : ∀ id node, after.get? id = some node → tree.get? id = some node) :
    after.Holds property :=
  fun id node hnode => h id node (hget id node hnode)

/-- A tree has one more node, which has the property. -/
theorem of_new {new : NodeId} {added : Node κ} (h : tree.Holds property) (hadded : property added)
    (hget : ∀ id, after.get? id = if id = new then some added else tree.get? id) :
    after.Holds property := by
  intro id node hnode
  rw [hget] at hnode
  split at hnode
  · cases hnode
    exact hadded
  · exact h id node hnode

theorem withScreen {node : Node κ} (h : tree.Holds property) (hnode : property node) :
    (tree.withScreen node).Holds property :=
  h.of_new hnode fun id => tree.get?_insert node id

theorem insertChild {node : Node κ} (h : tree.Holds property) (hnode : property node)
    (parent : NodeId) : (tree.insertChild parent node).2.Holds property :=
  h.of_new hnode fun id => tree.get?_insertChild node parent id

theorem ofConvention (convention : IdConvention) :
    (Tree.ofConvention convention : Tree κ).Holds property := by
  intro id node hnode
  cases hnode

theorem clear (tree : Tree κ) : tree.clear.Holds property := by
  intro id node hnode
  cases hnode

theorem rollback (h : tree.Holds property) (before : Checkpoint) (id : NodeId) :
    (tree.rollback before id).Holds property :=
  h.of_subset fun _ _ => tree.get?_of_get?_rollback before id

end Holds

/-! ## Restoring everything -/

namespace Restored

variable {before after : Tree κ} (h : Restored before [] after)
  (hbefore : before.Sound) (hafter : after.Sound)
include h hbefore hafter

theorem nodes_eq (hkeeps : Keeps (fun node => node) before after) : after.nodes = before.nodes := by
  apply hafter.nodes_latestFirst.ext hbefore.nodes_latestFirst
  intro id
  cases hnode : after.get? id with
  | none =>
      have hgone : before.contains id = false :=
        h.contains_eq_self id ▸ (get?_eq_none_iff after id).mp hnode
      exact hnode.trans ((get?_eq_none_iff before id).mpr hgone).symm
  | some node =>
      have hid : before.contains id = true := by
        rw [← h.contains_eq_self id]
        exact Registry.contains_of_get? hnode
      obtain ⟨old, hold, rfl⟩ :=
        hkeeps.view_eq id node (hbefore.number_lt_next id hid) hnode
      exact hnode.trans hold.symm

theorem children_eq : after.children = before.children := by
  apply hafter.children_latestFirst.ext hbefore.children_latestFirst
  intro id
  have hcontains : after.children.contains id = before.children.contains id := by
    rw [hafter.contains_children, hbefore.contains_children, h.contains_eq_self]
  cases hid : before.contains id with
  | false =>
      rw [← hbefore.contains_children] at hid
      rw [(Registry.get?_eq_none_iff _ _).mpr hid, Registry.get?_eq_none_iff, hcontains, hid]
  | true =>
      -- both trees have a list for the node, and nothing was attached behind the old one
      have hsome := hbefore.contains_children id ▸ hid
      obtain ⟨kept, hkept⟩ := Option.isSome_iff_exists.mp hsome
      obtain ⟨found, hfound⟩ := Option.isSome_iff_exists.mp (hcontains.trans hsome)
      have heq : after.childrenOf id = before.childrenOf id :=
        (h.childrenOf_eq hbefore hafter (Or.inl hid)).trans (List.append_nil _)
      rw [childrenOf, childrenOf, hkept, hfound] at heq
      rw [hkept, hfound]
      exact congrArg some heq

theorem parents_eq : after.parents = before.parents := by
  apply hafter.parents_latestFirst.ext hbefore.parents_latestFirst
  intro id
  rcases Nat.lt_or_ge id.number before.next with hlt | hge
  · exact h.parent?_eq id hlt
  · have hgone : before.contains id = false := hbefore.contains_of_next_le hge
    have hnone : after.parent? id = none :=
      hafter.consistent.parent?_eq_none ((h.contains_eq_self id).trans hgone)
    exact hnone.trans (hbefore.consistent.parent?_eq_none hgone).symm

/-- If nothing was attached and the nodes hold what they held, the tree is the one from before; only
numbers have been used up. -/
theorem eq_self (hkeeps : Keeps (fun node => node) before after)
    (hconvention : after.convention = before.convention)
    (hgeneration : after.generation = before.generation) :
    after = { before with next := after.next } := by
  have hnodes := h.nodes_eq hbefore hafter hkeeps
  have hchildren := h.children_eq hbefore hafter
  have hparents := h.parents_eq hbefore hafter
  have hscreens := h.screens_eq
  have hcontext := h.context_restored
  cases after
  cases hnodes
  cases hchildren
  cases hparents
  cases hscreens
  cases hcontext
  cases hconvention
  cases hgeneration
  rfl

end Restored

end Storyboard.Tree
