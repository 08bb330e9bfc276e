import Storyboard.Proofs.Tree.Removal

/-!
# Removing one subtree

A removal takes out a node with everything below it, and nothing else.  Reached trees are numbered
in the order in which their nodes are made, but none of that is needed here: `WellFormed` asks for a
forest whose registries name no nodes but its own, and `WithoutSubtree` says what is different once
a node has been removed.

The queue of a removal is followed round by round (`Sweep`).  A node that is queued stands in no
list of children any more (`Queued`), so no round comes to a node twice.  All in all the rounds are
as many as the nodes of the subtree, and what is left is a well-formed forest again
(`WellFormed.withoutSubtree`).
-/

namespace Storyboard.Tree

variable {κ : Type} {tree : Tree κ}

/-! ## Well-formed forests -/

/-- A forest in which only its own nodes have a parent.  Nothing is said about the order in which
nodes were made. -/
structure WellFormed (tree : Tree κ) : Prop extends Forest tree where
  nodup_parents : tree.parents.keys.Nodup
  contains_of_parent : ∀ child parent,
    tree.parent? child = some parent → tree.contains child = true

/-- Sound trees are well-formed, and so is every tree that a program reaches. -/
theorem Sound.wellFormed (h : tree.Sound) : tree.WellFormed where
  toForest := h.isForest
  nodup_parents := h.parents_latestFirst.nodup_keys
  contains_of_parent := h.contains_of_parent

theorem WellFormed.consistent (h : tree.WellFormed) : tree.Consistent where
  contains_children id := by
    rw [Bool.eq_iff_iff, ← Registry.mem_keys_iff, ← h.same_keys, Registry.mem_keys_iff]
    rfl
  parent_iff := h.parent_iff
  contains_of_parent := h.contains_of_parent
  mem_screens_iff := h.mem_screens_iff

/-! ## The way up from what is left -/

/-- A node stands below everything on its way up. -/
theorem Below.of_ancestor? (htree : tree.Consistent) {levels : Nat} {above id : NodeId}
    (h : tree.ancestor? levels id = some above) : tree.Below above id := by
  induction levels generalizing id with
  | zero =>
      obtain rfl : id = above := Option.some.inj h
      exact .self id
  | succ levels ih =>
      cases hparent : tree.parent? id with
      | none => simp [ancestor?, hparent] at h
      | some parent =>
          have hbelow : tree.Below above parent := ih (by simpa [ancestor?, hparent] using h)
          exact hbelow.of_parent htree hparent

/-- The way up from a node that is left never comes to one that is gone. -/
theorem ancestor?_remove (h : tree.Consistent) (id : NodeId) {other : NodeId}
    (hother : ¬ tree.Below id other) (levels : Nat) :
    (tree.remove id).ancestor? levels other = tree.ancestor? levels other := by
  induction levels generalizing other with
  | zero => rfl
  | succ levels ih =>
      rw [ancestor?, ancestor?, (remove_of_not_below h id hother).2.1]
      cases hparent : tree.parent? other with
      | none => rfl
      | some parent => exact ih fun hdown => hother (hdown.of_parent h hparent)

/-- A removal leaves a well-formed forest. -/
theorem WellFormed.remove (h : tree.WellFormed) (id : NodeId) : (tree.remove id).WellFormed := by
  have hbefore : tree.Consistent := h.consistent
  have hafter : (tree.remove id).Consistent := hbefore.remove id
  obtain ⟨hnodes, hchildren, hparents⟩ := keys_remove_sublist tree id
  constructor
  case nodup_parents => exact h.nodup_parents.sublist hparents
  case contains_of_parent => exact hafter.contains_of_parent
  constructor
  case nodup_nodes => exact h.nodup_nodes.sublist hnodes
  case nodup_children => exact h.nodup_children.sublist hchildren
  case same_keys =>
    intro other
    rw [Registry.mem_keys_iff, Registry.mem_keys_iff, hafter.contains_children]
    rfl
  case parent_iff => exact hafter.parent_iff
  case nodup_siblings =>
    intro above
    by_cases hdown : tree.Below id above
    · rw [childrenOf_remove_of_below hbefore id hdown]
      exact List.nodup_nil
    · rw [childrenOf_remove hbefore id hdown]
      exact (h.nodup_siblings above).filter _
  case nodup_screens =>
    rw [screens_remove hbefore id]
    exact h.nodup_screens.filter _
  case mem_screens_iff => exact hafter.mem_screens_iff
  case rooted =>
    intro other hother
    obtain ⟨hlive, hstays⟩ := (contains_remove_iff hbefore id other).mp hother
    obtain ⟨levels, screen, hscreen, hroot⟩ := h.rooted other hlive
    -- the screen above the node is not the removed one, or the node would be gone
    have hne : screen ≠ id := by
      rintro rfl
      exact hstays (.of_ancestor? hbefore hroot)
    refine ⟨levels, screen, ?_, (ancestor?_remove hbefore id hstays levels).trans hroot⟩
    rw [screens_remove hbefore id]
    exact List.mem_filter.mpr ⟨hscreen, decide_eq_true hne⟩

/-! ## The rounds of a removal -/

/-- The loop of a removal, which starts with a tree and a queue and ends with another tree: in each
round the first node of the queue is visited, which forgets it and queues its children. -/
inductive Sweep : Tree κ → List NodeId → List NodeId → Tree κ → Prop
  | done (tree : Tree κ) : Sweep tree [] [] tree
  | visit {tree after : Tree κ} {id : NodeId} {queue visited : List NodeId}
      (hrest : Sweep (tree.forget id) (queue ++ tree.childrenOf id) visited after) :
      Sweep tree (id :: queue) (id :: visited) after

/-- The loop comes to an end. -/
theorem exists_sweep (tree : Tree κ) (queue : List NodeId) :
    ∃ visited, Sweep tree queue visited (tree.forgetAll queue) := by
  induction tree, queue using forgetAll.induct with
  | case1 tree =>
      rw [forgetAll]
      exact ⟨[], .done tree⟩
  | case2 tree id queue ih =>
      obtain ⟨visited, hrest⟩ := ih
      rw [forgetAll]
      exact ⟨id :: visited, .visit hrest⟩

/-- It visits what stands at or below a node of the queue. -/
theorem Sweep.mem_visited_iff {after : Tree κ} {queue visited : List NodeId}
    (h : Sweep tree queue visited after) (other : NodeId) :
    other ∈ visited ↔ tree.BelowAny queue other := by
  induction h with
  | done tree => simp [BelowAny]
  | visit _ ih => rw [List.mem_cons, ih, belowAny_cons_iff]

/-- Every node of the queue is queued once and is nobody's child any more; every other node is the
child of one node at most. -/
structure Queued (tree : Tree κ) (queue : List NodeId) : Prop where
  nodup : queue.Nodup
  not_child : ∀ id ∈ queue, ∀ above, id ∉ tree.childrenOf above
  nodup_siblings : ∀ above, (tree.childrenOf above).Nodup
  eq_of_child : ∀ child first second,
    child ∈ tree.childrenOf first → child ∈ tree.childrenOf second → first = second

namespace Queued

/-- A round keeps the queue in order: the children it adds stood in the one list that is forgotten.
-/
theorem visit {id : NodeId} {queue : List NodeId} (h : Queued tree (id :: queue)) :
    Queued (tree.forget id) (queue ++ tree.childrenOf id) where
  nodup := by
    refine List.nodup_append.mpr ⟨h.nodup.of_cons, h.nodup_siblings id, ?_⟩
    rintro other hother child hchild rfl
    exact h.not_child other (List.mem_cons_of_mem _ hother) id hchild
  not_child other hother above hlisted := by
    obtain ⟨hne, hlisted⟩ := mem_childrenOf_forget_iff.mp hlisted
    rcases List.mem_append.mp hother with hqueue | hchild
    · exact h.not_child other (List.mem_cons_of_mem _ hqueue) above hlisted
    · exact hne (h.eq_of_child other above id hlisted hchild)
  nodup_siblings above := by
    rw [childrenOf_forget]
    split
    · exact List.nodup_nil
    · exact h.nodup_siblings above
  eq_of_child child first second hfirst hsecond :=
    h.eq_of_child child first second (mem_childrenOf_forget_iff.mp hfirst).2
      (mem_childrenOf_forget_iff.mp hsecond).2

/-- No round comes to a node twice. -/
theorem nodup_visited {after : Tree κ} {queue visited : List NodeId} (h : Queued tree queue)
    (hsweep : Sweep tree queue visited after) : visited.Nodup := by
  induction hsweep with
  | done => exact List.nodup_nil
  | @visit tree _ id queue visited hrest ih =>
      refine List.nodup_cons.mpr ⟨fun hagain => ?_, ih h.visit⟩
      -- the node is neither queued again nor the child of a node that is
      obtain ⟨root, hroot, hbelow⟩ := (hrest.mem_visited_iff id).mp hagain
      by_cases heq : id = root
      · subst heq
        rcases List.mem_append.mp hroot with hqueue | hchild
        · exact (List.nodup_cons.mp h.nodup).1 hqueue
        · exact h.not_child id (List.mem_cons_self ..) id hchild
      · obtain ⟨above, hlisted, -⟩ := hbelow.exists_above heq
        exact h.not_child id (List.mem_cons_self ..) above (mem_childrenOf_forget_iff.mp hlisted).2

end Queued

/-- Once it is detached, a node can be queued. -/
theorem WellFormed.queued (h : tree.WellFormed) (id : NodeId) :
    Queued (tree.detach id) [id] := by
  have hlisted {child above : NodeId} (hchild : child ∈ (tree.detach id).childrenOf above) :
      child ∈ tree.childrenOf above ∧ child ≠ id :=
    (mem_childrenOf_detach_iff h.consistent id).mp hchild
  constructor
  case nodup => exact List.nodup_singleton id
  case not_child =>
    intro other hother above hchild
    exact (hlisted hchild).2 (List.mem_singleton.mp hother)
  case nodup_siblings =>
    intro above
    rw [childrenOf_detach h.consistent]
    exact (h.nodup_siblings above).filter _
  case eq_of_child =>
    intro child first second hfirst hsecond
    have hparent := (h.parent_iff child first).mpr (hlisted hfirst).1
    rw [(h.parent_iff child second).mpr (hlisted hsecond).1] at hparent
    exact (Option.some.inj hparent).symm

/-! ## What is different -/

/-- The tree with a node taken out together with everything below it.  Each node that is left holds
what it held, below the parent it had and above the same children in the same order; only the node
itself is missing where it stood, among the children of its parent or among the screens. -/
structure WithoutSubtree (before : Tree κ) (id : NodeId) (after : Tree κ) : Prop where
  contains_iff : ∀ other,
    after.contains other = true ↔ before.contains other = true ∧ ¬ before.Below id other
  get?_eq : ∀ other, after.contains other = true → after.get? other = before.get? other
  parent?_eq : ∀ other, after.contains other = true → after.parent? other = before.parent? other
  childrenOf_eq : ∀ other, after.contains other = true →
    after.childrenOf other =
      if before.parent? id = some other then (before.childrenOf other).erase id
      else before.childrenOf other
  screens_eq : after.screens = before.screens.erase id
  context_eq : after.context = before.context
  convention_eq : after.convention = before.convention
  generation_eq : after.generation = before.generation
  next_eq : after.next = before.next

theorem filter_ne_eq_erase {ids : List NodeId} (h : ids.Nodup) (id : NodeId) :
    ids.filter (· ≠ id) = ids.erase id := by
  rw [h.erase_eq_filter]
  refine List.filter_congr fun other _ => ?_
  rw [Bool.eq_iff_iff, decide_eq_true_eq, bne_iff_ne]

theorem WellFormed.remove_withoutSubtree (h : tree.WellFormed) (id : NodeId) :
    WithoutSubtree tree id (tree.remove id) := by
  have hbefore : tree.Consistent := h.consistent
  have hkept {other : NodeId} (hother : (tree.remove id).contains other = true) :
      ¬ tree.Below id other :=
    ((contains_remove_iff hbefore id other).mp hother).2
  constructor
  case contains_iff => exact contains_remove_iff hbefore id
  case get?_eq =>
    intro other hother
    exact (remove_of_not_below hbefore id (hkept hother)).1
  case parent?_eq =>
    intro other hother
    exact (remove_of_not_below hbefore id (hkept hother)).2.1
  case childrenOf_eq =>
    intro other hother
    rw [childrenOf_remove hbefore id (hkept hother), filter_ne_eq_erase (h.nodup_siblings other)]
    split
    case isTrue => rfl
    case isFalse hparent =>
      exact List.erase_of_not_mem fun hchild => hparent ((h.parent_iff id other).mpr hchild)
  case screens_eq => rw [screens_remove hbefore id, filter_ne_eq_erase h.nodup_screens]
  case context_eq => exact (remove_frame id).1
  case convention_eq => exact (remove_frame id).2.1
  case generation_eq => exact (remove_frame id).2.2.1
  case next_eq => exact (remove_frame id).2.2.2

/-- A removal takes out one subtree and nothing else.  If the node is in the tree, the loop visits
the node and everything below it, each once, and then it is done; if it is not, nothing is done. -/
theorem WellFormed.withoutSubtree (h : tree.WellFormed) (id : NodeId) :
    WithoutSubtree tree id (tree.remove id) ∧ (tree.remove id).WellFormed ∧
      (tree.contains id = false → tree.remove id = tree) ∧
      (tree.contains id = true → ∃ visited,
        Sweep (tree.detach id) [id] visited (tree.remove id) ∧ visited.Nodup ∧
          ∀ other, other ∈ visited ↔ tree.Below id other) := by
  refine ⟨h.remove_withoutSubtree id, h.remove id, fun hgone => ?_, fun hlive => ?_⟩
  · rw [Tree.remove, if_neg (by simp [hgone])]
  · obtain ⟨visited, hsweep⟩ := exists_sweep (tree.detach id) [id]
    refine ⟨visited, ?_, (h.queued id).nodup_visited hsweep, fun other => ?_⟩
    · rw [Tree.remove, if_pos hlive]
      exact hsweep
    · rw [hsweep.mem_visited_iff, below_detach_iff h.consistent]

/-- A screen with a table that was made before it and holds a button that was made before both. -/
def graftedTree : Tree Unit :=
  { nodes := ⟨[(⟨4⟩, { kind := .screen, text := "Home" }), (⟨7⟩, { kind := .widget .label }),
      (⟨2⟩, { kind := .widget .table }), (⟨9⟩, { kind := .widget .row }),
      (⟨0⟩, { kind := .widget .button })]⟩
    children := ⟨[(⟨4⟩, [⟨7⟩, ⟨2⟩]), (⟨7⟩, []), (⟨2⟩, [⟨9⟩, ⟨0⟩]), (⟨9⟩, []), (⟨0⟩, [])]⟩
    parents := ⟨[(⟨7⟩, ⟨4⟩), (⟨2⟩, ⟨4⟩), (⟨9⟩, ⟨2⟩), (⟨0⟩, ⟨2⟩)]⟩
    screens := [⟨4⟩]
    next := 10 }

theorem wellFormed_graftedTree : graftedTree.WellFormed := by
  -- what the registries say of a node, as a chain of tests
  have hparent (id : NodeId) : graftedTree.parent? id =
      if id = ⟨7⟩ then some ⟨4⟩ else if id = ⟨2⟩ then some ⟨4⟩ else if id = ⟨9⟩ then some ⟨2⟩
      else if id = ⟨0⟩ then some ⟨2⟩ else none := by
    simp only [parent?, Registry.get?, graftedTree, lookup_cons_eq_ite, List.lookup_nil]
  have hchildren (id : NodeId) : graftedTree.childrenOf id =
      if id = ⟨4⟩ then [⟨7⟩, ⟨2⟩] else if id = ⟨2⟩ then [⟨9⟩, ⟨0⟩] else [] := by
    simp only [childrenOf, Registry.get?, graftedTree, lookup_cons_eq_ite, List.lookup_nil]
    grind
  have hlive (id : NodeId) : graftedTree.contains id = true ↔
      id = ⟨4⟩ ∨ id = ⟨7⟩ ∨ id = ⟨2⟩ ∨ id = ⟨9⟩ ∨ id = ⟨0⟩ := by
    simp only [contains, ← Registry.mem_keys_iff]
    simp [graftedTree, Registry.keys]
  constructor
  case nodup_parents => decide
  case contains_of_parent =>
    intro child parent
    grind
  constructor
  case nodup_nodes => decide
  case nodup_children => decide
  case same_keys => simp [graftedTree, Registry.keys]
  case parent_iff =>
    intro child parent
    grind
  case nodup_siblings =>
    intro parent
    grind
  case nodup_screens => decide
  case mem_screens_iff =>
    intro id
    have hscreens : graftedTree.screens = [⟨4⟩] := rfl
    grind
  case rooted =>
    intro id hid
    rcases (hlive id).mp hid with rfl | rfl | rfl | rfl | rfl
    · exact ⟨0, ⟨4⟩, by decide, by decide⟩
    · exact ⟨1, ⟨4⟩, by decide, by decide⟩
    · exact ⟨1, ⟨4⟩, by decide, by decide⟩
    · exact ⟨2, ⟨4⟩, by decide, by decide⟩
    · exact ⟨2, ⟨4⟩, by decide, by decide⟩

/-- The table goes with the row and the button. -/
theorem withoutSubtree_graftedTree :
    graftedTree.WellFormed ∧ graftedTree.contains ⟨2⟩ = true ∧
      WithoutSubtree graftedTree ⟨2⟩ (graftedTree.remove ⟨2⟩) ∧
      (graftedTree.remove ⟨2⟩).WellFormed ∧
      ∃ visited, Sweep (graftedTree.detach ⟨2⟩) [⟨2⟩] visited (graftedTree.remove ⟨2⟩) ∧
        visited.Nodup ∧ ∀ other, other ∈ visited ↔ graftedTree.Below ⟨2⟩ other := by
  have hlive : graftedTree.contains ⟨2⟩ = true := by decide
  obtain ⟨hwithout, hafter, -, hrounds⟩ :=
    WellFormed.withoutSubtree wellFormed_graftedTree ⟨2⟩
  exact ⟨wellFormed_graftedTree, hlive, hwithout, hafter, hrounds hlive⟩

end Storyboard.Tree
