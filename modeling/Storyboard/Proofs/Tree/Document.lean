import Storyboard.Proofs.Tree.Undoing
import Storyboard.Proofs.Tree.Walk

/-!
# Document order is the order of creation

A tree is in document order if the nodes below any node are numbered without a gap and everything
that was made since the node that receives the next widget stands below that node
(`InDocumentOrder`).  The second half is what a new widget needs: it is the last node of all, and
nothing may stand between it and its parent that is not below the parent.

A block keeps a tree in document order however it ends.  What is opened again when it is left
received the widgets before it, and nothing made inside the block stands anywhere else, unless a
screen was declared there, which is then the current one.
-/

namespace Storyboard.Tree

variable {κ : Type}

/-- Everything that was made since a node stands below it. -/
def EndsBelow (tree : Tree κ) (root : NodeId) : Prop :=
  ∀ id, tree.contains id = true → root.number ≤ id.number → tree.Below root id

/-- Nodes are made where a walk will come to them last. -/
structure InDocumentOrder (tree : Tree κ) : Prop where
  contiguous : tree.Contiguous
  endsBelow : ∀ target, tree.context.target? = some target → tree.EndsBelow target

/-! ## What the order depends on -/

/-- What stands below a node is a matter of children alone. -/
theorem below_congr {tree after : Tree κ}
    (hchildren : ∀ id, after.childrenOf id = tree.childrenOf id) {root id : NodeId} :
    after.Below root id ↔ tree.Below root id := by
  constructor
  · exact Below.mono fun id => hchildren id ▸ List.Subset.refl _
  · exact Below.mono fun id => hchildren id ▸ List.Subset.refl _

theorem Contiguous.congr {tree after : Tree κ} (h : tree.Contiguous)
    (hcontains : ∀ id, after.contains id = tree.contains id)
    (hchildren : ∀ id, after.childrenOf id = tree.childrenOf id) : after.Contiguous := by
  intro root last id hbelow hid hfirst hlast
  rw [below_congr hchildren] at hbelow ⊢
  exact h root last id hbelow (hcontains id ▸ hid) hfirst hlast

/-- What was made since the current screen stands below it. -/
theorem Contiguous.endsBelow_screen {tree : Tree κ} (hcontiguous : tree.Contiguous)
    (h : tree.Oriented) {screen : NodeId} (hscreen : tree.context.screen = some screen) :
    tree.EndsBelow screen := by
  intro id hid hle
  obtain ⟨root, hroot, hbelow⟩ := Below.exists_screen h.toSound hid
  rw [h.screen_eq] at hscreen
  have hfirst : root.number ≤ screen.number := h.screens_inOrder.number_le_getLast hroot hscreen
  -- the current screen was made between the root of the node and the node
  have hlive : tree.contains screen = true := h.contains_screen (h.screen_eq.trans hscreen)
  have hunder : tree.Below root screen := hcontiguous root id screen hbelow hlive hfirst hle
  by_cases heq : screen = root
  · rw [heq]
    exact hbelow
  · obtain ⟨parent, hparent, -⟩ := hunder.parent h.consistent heq
    rw [((h.mem_screens_iff screen).mp (List.mem_of_getLast? hscreen)).2] at hparent
    cases hparent

namespace InDocumentOrder

variable {tree : Tree κ}

/-- If no container is open, the screen receives what is made next. -/
theorem of_closed (hcontiguous : tree.Contiguous) (h : tree.Oriented)
    (hclosed : tree.context.containers = []) : tree.InDocumentOrder where
  contiguous := hcontiguous
  endsBelow target htarget := by
    unfold Context.target? Context.container? at htarget
    rw [hclosed] at htarget
    exact hcontiguous.endsBelow_screen h htarget

theorem of_empty (h : ∀ id, tree.contains id = false) : tree.InDocumentOrder := by
  constructor
  · intro root last id _ hid
    rw [h id] at hid
    cases hid
  · intro target _ id hid
    rw [h id] at hid
    cases hid

/-- What the nodes hold does not matter. -/
theorem congr {after : Tree κ} (h : tree.InDocumentOrder)
    (hcontains : ∀ id, after.contains id = tree.contains id)
    (hchildren : ∀ id, after.childrenOf id = tree.childrenOf id)
    (hcontext : after.context = tree.context) : after.InDocumentOrder where
  contiguous := h.contiguous.congr hcontains hchildren
  endsBelow target htarget id hid hle := by
    rw [below_congr hchildren]
    exact h.endsBelow target (hcontext ▸ htarget) id (hcontains id ▸ hid) hle

theorem reshape {after : Tree κ} (h : tree.InDocumentOrder) (hshape : SameShape tree after) :
    after.InDocumentOrder :=
  h.congr hshape.contains (fun id => by rw [childrenOf, childrenOf, hshape.children_eq])
    hshape.context_eq

end InDocumentOrder

/-! ## New nodes -/

section New

variable {tree : Tree κ} (h : tree.Oriented) (node : Node κ)
include h

/-- A new screen is the last node, and nothing stands below it. -/
theorem InDocumentOrder.withScreen (hordered : tree.InDocumentOrder) :
    (tree.withScreen node).InDocumentOrder := by
  have hbelow {root id : NodeId} : (tree.withScreen node).Below root id ↔ tree.Below root id :=
    below_congr fun id => childrenOf_withScreen node id h.toSound
  have hgrown := h.withScreen node
  refine of_closed ?_ hgrown rfl
  intro root last id hunder hid hfirst hlast
  rw [contains_withScreen] at hid
  rcases Bool.or_eq_true_iff.mp hid with hnew | hold
  · -- the last of them is the screen itself, since nothing has a greater number
    obtain rfl : id = tree.fresh := of_decide_eq_true hnew
    by_cases heq : last = root
    · have hsame : root = tree.fresh := by
        apply NodeId.eq_of_number_eq
        rw [heq] at hlast
        exact Nat.le_antisymm hfirst hlast
      rw [hsame]
      exact .self _
    · obtain ⟨parent, hparent, -⟩ := hunder.parent hgrown.consistent heq
      rw [parent?_withScreen] at hparent
      have hlt := h.number_lt_next last (h.contains_of_parent last parent hparent)
      exact absurd hlast (Nat.not_le.mpr hlt)
  · rw [hbelow] at hunder ⊢
    exact hordered.contiguous root last id hunder hold hfirst hlast

variable {parent : NodeId} (hparent : tree.contains parent = true)
include hparent

theorem childrenOf_subset_insertChild (id : NodeId) :
    tree.childrenOf id ⊆ (tree.insertChild parent node).2.childrenOf id := by
  rw [childrenOf_insertChild node id h.toSound hparent]
  split
  · exact List.subset_append_left _ _
  · exact List.Subset.refl _

/-- The new widget apart, what stands below a node stood there before. -/
theorem below_of_insertChild {root id : NodeId}
    (hbelow : (tree.insertChild parent node).2.Below root id) (hid : id ≠ tree.fresh) :
    tree.Below root id := by
  have hleaf : (tree.insertChild parent node).2.childrenOf tree.fresh = [] := by
    have hne : tree.fresh ≠ parent := by
      rintro heq
      rw [← heq, h.contains_fresh] at hparent
      cases hparent
    rw [childrenOf_insertChild node _ h.toSound hparent, if_neg hne]
    exact h.consistent.childrenOf_eq_nil h.contains_fresh
  induction hbelow with
  | self id => exact .self id
  | @child root child id hchild hbelow ih =>
      by_cases hnew : child = tree.fresh
      · -- nothing stands below the new widget but the widget itself
        subst hnew
        cases hbelow with
        | self => exact absurd rfl hid
        | child hchild' _ => simp [hleaf] at hchild'
      · rw [childrenOf_insertChild node _ h.toSound hparent] at hchild
        refine .child ?_ (ih hid)
        split at hchild
        · rcases List.mem_append.mp hchild with hold | hfresh
          · exact hold
          · exact absurd (List.mem_singleton.mp hfresh) hnew
        · exact hchild

/-- A widget is made below the node that everything made lately stands below. -/
theorem InDocumentOrder.insertChild (hordered : tree.InDocumentOrder)
    (htarget : tree.context.target? = some parent) :
    (tree.insertChild parent node).2.InDocumentOrder := by
  have hsound := (h.insertChild hparent node).toSound
  have hends := hordered.endsBelow parent htarget
  have hkeep {root id : NodeId} (hbelow : tree.Below root id) :
      (tree.insertChild parent node).2.Below root id :=
    hbelow.mono (childrenOf_subset_insertChild h node hparent)
  have hplace : (tree.insertChild parent node).2.parent? tree.fresh = some parent := by
    rw [parent?_insertChild, if_pos rfl]
  have hold {id : NodeId} (hid : (tree.insertChild parent node).2.contains id = true)
      (hne : id ≠ tree.fresh) : tree.contains id = true := by
    rw [contains_insertChild, decide_eq_false hne, Bool.false_or] at hid
    exact hid
  constructor
  · intro root last id hbelow hid hfirst hlast
    by_cases hsame : last = root
    · -- the numbers leave no choice
      have heq : id = root := by
        apply NodeId.eq_of_number_eq
        rw [hsame] at hlast
        exact Nat.le_antisymm hlast hfirst
      rw [heq]
      exact .self root
    by_cases hnew : last = tree.fresh
    · subst hnew
      by_cases hid' : id = tree.fresh
      · rw [hid']
        exact hbelow
      · -- the root is above the parent, so it is above everything from there on
        obtain ⟨above, habove, hunder⟩ := hbelow.parent hsound.consistent hsame
        obtain rfl : parent = above := Option.some.inj (hplace.symm.trans habove)
        have hne : parent ≠ tree.fresh := tree.ne_fresh (h.number_lt_next parent hparent)
        have hroot := below_of_insertChild h node hparent hunder hne
        have hlive := hold hid hid'
        rcases Nat.le_total id.number parent.number with hle | hge
        · exact hkeep (hordered.contiguous root parent id hroot hlive hfirst hle)
        · exact hkeep (hroot.trans (hends id hlive hge))
    · obtain ⟨above, habove, -⟩ := hbelow.parent hsound.consistent hsame
      have hlt := h.number_lt_next last (hold (hsound.contains_of_parent last above habove) hnew)
      have hid' : id ≠ tree.fresh := tree.ne_fresh (Nat.lt_of_le_of_lt hlast hlt)
      have hunder := below_of_insertChild h node hparent hbelow hnew
      exact hkeep (hordered.contiguous root last id hunder (hold hid hid') hfirst hlast)
  · intro target htarget' id hid hle
    obtain rfl : parent = target := Option.some.inj (htarget.symm.trans htarget')
    by_cases hnew : id = tree.fresh
    · subst hnew
      exact (Below.self parent).of_parent hsound.consistent hplace
    · exact hkeep (hends id (hold hid hnew) hle)

end New

/-! ## Blocks -/

/-- What has grown without attachments, and with the context of before, stands below what received
the widgets. -/
theorem Grown.endsBelow {before after : Tree κ} (hgrown : Grown before [] after)
    (hbefore : before.Oriented) (hafter : after.Oriented)
    (hcontext : after.context = before.context)
    {target : NodeId} (htarget : before.context.target? = some target)
    (hends : before.EndsBelow target) : after.EndsBelow target := by
  have hkeep (id : NodeId) : before.childrenOf id ⊆ after.childrenOf id := by
    intro child hchild
    have hparent := (hbefore.parent_iff child id).mpr hchild
    have hlt := hbefore.number_lt_next child (hbefore.contains_child hchild)
    exact (hafter.parent_iff child id).mp ((hgrown.parent?_eq child hlt).trans hparent)
  have hlive := hbefore.number_lt_next target (hbefore.contains_target htarget)
  intro id hid hle
  -- a new node is not a screen, so its parent is the target or new itself
  induction hnumber : id.number using Nat.strong_induction_on generalizing id with
  | _ number ih =>
      rcases Nat.lt_or_ge id.number before.next with hlt | hge
      · exact (hends id (hgrown.contains_eq id hlt ▸ hid) hle).mono hkeep
      cases hparent : after.parent? id with
      | none =>
          have hscreen := (hafter.mem_screens_iff id).mpr ⟨hid, hparent⟩
          obtain ⟨last, hlast⟩ := hbefore.exists_screen htarget
          have hcurrent : after.screens.getLast? = some last := by
            rw [← hafter.screen_eq, hcontext, hlast]
          have hold := hbefore.number_lt_next last (hbefore.contains_screen hlast)
          have hlater := hafter.screens_inOrder.number_le_getLast hscreen hcurrent
          omega
      | some parent =>
          have hlt : parent.number < id.number := hafter.parent_lt id parent hparent
          have habove : after.Below target parent := by
            rcases hgrown.placed id parent hge Attached.not_nil hparent with hsame | ⟨hnew, -⟩
            · obtain rfl : target = parent := Option.some.inj (htarget.symm.trans hsame)
              exact .self target
            · have hfrom : target.number ≤ parent.number := by omega
              have hlive := hafter.consistent.contains_parent hparent
              exact ih parent.number (hnumber ▸ hlt) parent hlive hfrom rfl
          exact habove.of_parent hafter.consistent hparent

namespace Entered

variable {before entered after : Tree κ} {scope : Scope}

/-- The node of a block is the last one when the block begins. -/
theorem inDocumentOrder (h : Entered before scope entered) (hcontiguous : entered.Contiguous) :
    entered.InDocumentOrder where
  contiguous := hcontiguous
  endsBelow target htarget id hid hle := by
    obtain rfl : before.fresh = target := Option.some.inj (h.target.symm.trans htarget)
    have hlt := h.oriented.number_lt_next id hid
    rw [h.next_eq] at hlt
    have heq : id = before.fresh :=
      NodeId.eq_of_number_eq (Nat.le_antisymm (Nat.le_of_lt_succ hlt) hle)
    rw [heq]
    exact .self _

variable (h : Entered before scope entered) (hbefore : before.Oriented)
  (hrun : Since entered [] after) (hafter : after.Oriented)
  (hordered : before.InDocumentOrder) (hended : after.InDocumentOrder)
include h hbefore hrun hafter hordered hended

/-- A block that is left leaves the tree in document order. -/
theorem inDocumentOrder_leave : (after.leave scope).InDocumentOrder := by
  have horiented := h.oriented_leave hbefore hrun hafter
  have hcontiguous : (after.leave scope).Contiguous :=
    hended.contiguous.congr (fun _ => rfl) fun _ => rfl
  rcases h.since hbefore hrun hafter with ⟨-, hgrown⟩ | hcleared
  · rcases hgrown.context_eq with hsame | ⟨screen, -, hnew⟩
    · refine ⟨hcontiguous, fun target htarget => ?_⟩
      rw [hsame] at htarget
      exact hgrown.endsBelow hbefore horiented hsame htarget (hordered.endsBelow target htarget)
    · exact .of_closed hcontiguous horiented (by rw [hnew])
  · exact .of_closed hcontiguous horiented hcleared.containers_eq

/-- So does a block that is undone. -/
theorem inDocumentOrder_undone :
    ((after.leave scope).rollback before.checkpoint before.fresh).InDocumentOrder := by
  rcases hrun with ⟨hgeneration, hgrown⟩ | hcleared
  · obtain ⟨hrestored, horiented⟩ := h.restored hbefore hafter hgrown hgeneration
    refine hordered.congr hrestored.contains_eq_self (fun id => ?_) hrestored.context_restored
    cases hid : before.contains id with
    | true =>
        have hkept := hrestored.childrenOf_eq hbefore.toSound horiented.toSound (Or.inl hid)
        exact hkept.trans (List.append_nil _)
    | false =>
        have hgone := (hrestored.contains_eq_self id).trans hid
        rw [horiented.consistent.childrenOf_eq_nil hgone, hbefore.consistent.childrenOf_eq_nil hid]
  · -- after a clearing nothing is undone
    have hlt := hcleared.generation_lt
    rw [h.generation_eq] at hlt
    have hcheck : before.checkpoint.generation ≠ (after.leave scope).generation := Nat.ne_of_lt hlt
    rw [rollback_of_cleared hcheck]
    exact h.inDocumentOrder_leave hbefore (Or.inr hcleared) hafter hordered hended

end Entered

end Storyboard.Tree
