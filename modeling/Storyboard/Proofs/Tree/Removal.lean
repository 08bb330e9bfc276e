import Storyboard.Proofs.Tree.Forest
import Storyboard.Tree.Removal

/-!
# What leaves a tree, and what stays

A node is removed by working through a queue, and lists of children are taken apart while it is
worked through.  All the same exactly the nodes at or below the removed one leave
(`forgetAll_of_belowAny`, `forgetAll_of_not_belowAny`).  This takes no more than registries and
screens that agree with each other, and they still do afterwards (`Consistent.remove`).  `Pruned` is
the form in which sessions use it: what the nodes that are not gone hold and where they stand has
not changed, and the tree is sound again.  A rollback prunes the node of a block and the screens
declared since, and nothing else (`rollback_pruned`).
-/

namespace Storyboard.Tree

variable {κ : Type}

/-! ## Standing below a node -/

/-- The node stands at `root` or below it. -/
inductive Below (tree : Tree κ) : NodeId → NodeId → Prop
  | self (id : NodeId) : Below tree id id
  | child {root child id : NodeId} (hchild : child ∈ tree.childrenOf root)
      (hbelow : Below tree child id) : Below tree root id

/-- The node stands at or below one of several. -/
def BelowAny (tree : Tree κ) (roots : List NodeId) (id : NodeId) : Prop :=
  ∃ root ∈ roots, tree.Below root id

namespace Below

variable {tree : Tree κ}

theorem trans {root middle id : NodeId} (hfirst : tree.Below root middle)
    (hsecond : tree.Below middle id) : tree.Below root id := by
  induction hfirst with
  | self => exact hsecond
  | child hchild _ ih => exact .child hchild (ih hsecond)

theorem mono {other : Tree κ} (hle : ∀ id, tree.childrenOf id ⊆ other.childrenOf id)
    {root id : NodeId} (h : tree.Below root id) : other.Below root id := by
  induction h with
  | self id => exact .self id
  | child hchild _ ih => exact .child (hle _ hchild) ih

/-- What stands strictly below a node is the child of a node that stands there as well. -/
theorem exists_above {root id : NodeId} (h : tree.Below root id) (hne : id ≠ root) :
    ∃ above, id ∈ tree.childrenOf above ∧ tree.Below root above := by
  -- the induction is on the way down, and what is found is the last node before its end
  induction h with
  | self => exact absurd rfl hne
  | @child root child id hchild hbelow ih =>
      by_cases heq : id = child
      · exact ⟨root, heq ▸ hchild, .self root⟩
      · obtain ⟨above, hlast, habove⟩ := ih heq
        exact ⟨above, hlast, .child hchild habove⟩

theorem parent (htree : tree.Consistent) {root id : NodeId} (h : tree.Below root id)
    (hne : id ≠ root) : ∃ parent, tree.parent? id = some parent ∧ tree.Below root parent := by
  obtain ⟨parent, hchild, habove⟩ := h.exists_above hne
  exact ⟨parent, (htree.parent_iff _ _).mpr hchild, habove⟩

theorem of_parent (htree : tree.Consistent) {root parent id : NodeId}
    (h : tree.Below root parent) (hparent : tree.parent? id = some parent) : tree.Below root id :=
  h.trans (.child ((htree.parent_iff _ _).mp hparent) (.self id))

/-- Nothing stands below a node that is not in the tree. -/
theorem eq_of_not_contains (htree : tree.Consistent) {root id : NodeId} (h : tree.Below root id)
    (hroot : tree.contains root = false) : id = root := by
  cases h with
  | self => rfl
  | child hchild _ =>
      rw [htree.childrenOf_eq_nil hroot] at hchild
      simp at hchild

end Below

/-! ## Forgetting a queue of nodes -/

section Forget

variable (tree : Tree κ) (id other : NodeId)

theorem get?_forget :
    (tree.forget id).get? other = if other = id then none else tree.get? other :=
  Registry.get?_erase _ _ _

theorem parent?_forget :
    (tree.forget id).parent? other = if other = id then none else tree.parent? other :=
  Registry.get?_erase _ _ _

theorem children_get?_forget :
    (tree.forget id).children.get? other = if other = id then none else tree.children.get? other :=
  Registry.get?_erase _ _ _

theorem childrenOf_forget :
    (tree.forget id).childrenOf other = if other = id then [] else tree.childrenOf other := by
  rw [childrenOf, children_get?_forget]
  split <;> rfl

variable {tree id other}

theorem mem_childrenOf_forget_iff {child above : NodeId} :
    child ∈ (tree.forget id).childrenOf above ↔ above ≠ id ∧ child ∈ tree.childrenOf above := by
  rw [childrenOf_forget]
  split <;> simp [*]

theorem Below.of_forget {root : NodeId} (h : (tree.forget id).Below root other) :
    tree.Below root other :=
  h.mono fun _ _ hchild => (mem_childrenOf_forget_iff.mp hchild).2

/-- A way down that passes a forgotten node goes on from one of its children, and the last time it
does so it does not come back. -/
theorem Below.forget {root : NodeId} (id : NodeId) (h : tree.Below root other) :
    other = id ∨ (tree.forget id).Below root other
      ∨ (tree.forget id).BelowAny (tree.childrenOf id) other := by
  induction h with
  | self => exact Or.inr (Or.inl (.self _))
  | @child root child other hchild _ ih =>
      -- the way from the child on either never comes to the forgotten node or leaves it for good
      rcases ih with heq | hbelow | hany
      · exact Or.inl heq
      · by_cases hroot : root = id
        · exact Or.inr (Or.inr ⟨child, hroot ▸ hchild, hbelow⟩)
        · have hstays := mem_childrenOf_forget_iff.mpr ⟨hroot, hchild⟩
          exact Or.inr (Or.inl (.child hstays hbelow))
      · exact Or.inr (Or.inr hany)

/-- Taking the first node of a queue away and putting its children at the end leaves out that node
and no other. -/
theorem belowAny_cons_iff (queue : List NodeId) :
    tree.BelowAny (id :: queue) other ↔
      other = id ∨ (tree.forget id).BelowAny (queue ++ tree.childrenOf id) other := by
  constructor
  · rintro ⟨root, hroot, hbelow⟩
    rcases hbelow.forget id with heq | hkept | ⟨child, hchild, hkept⟩
    · exact Or.inl heq
    · rcases List.mem_cons.mp hroot with rfl | hqueue
      · cases hkept with
        | self => exact Or.inl rfl
        | child hchild _ => exact absurd rfl (mem_childrenOf_forget_iff.mp hchild).1
      · exact Or.inr ⟨root, List.mem_append_left _ hqueue, hkept⟩
    · exact Or.inr ⟨child, List.mem_append_right _ hchild, hkept⟩
  · rintro (rfl | ⟨root, hroot, hkept⟩)
    · exact ⟨other, List.mem_cons_self .., .self other⟩
    · rcases List.mem_append.mp hroot with hqueue | hchild
      · exact ⟨root, List.mem_cons_of_mem _ hqueue, hkept.of_forget⟩
      · exact ⟨id, List.mem_cons_self .., .child hchild hkept.of_forget⟩

end Forget

/-- Nothing changes about a node that is not at or below one of the queue. -/
theorem forgetAll_of_not_belowAny (tree : Tree κ) (queue : List NodeId) {other : NodeId}
    (h : ¬ tree.BelowAny queue other) :
    (tree.forgetAll queue).get? other = tree.get? other ∧
      (tree.forgetAll queue).parent? other = tree.parent? other ∧
      (tree.forgetAll queue).children.get? other = tree.children.get? other := by
  induction tree, queue using forgetAll.induct with
  | case1 tree =>
      rw [forgetAll]
      exact ⟨rfl, rfl, rfl⟩
  | case2 tree id queue ih =>
      -- the node is neither the one forgotten now nor below what is queued then
      rw [belowAny_cons_iff, not_or] at h
      rw [forgetAll]
      obtain ⟨hget, hparent, hchildren⟩ := ih h.2
      rw [get?_forget, if_neg h.1] at hget
      rw [parent?_forget, if_neg h.1] at hparent
      rw [children_get?_forget, if_neg h.1] at hchildren
      exact ⟨hget, hparent, hchildren⟩

/-- The nodes at or below those of the queue are gone. -/
theorem forgetAll_of_belowAny (tree : Tree κ) (queue : List NodeId) {other : NodeId}
    (h : tree.BelowAny queue other) :
    (tree.forgetAll queue).get? other = none ∧ (tree.forgetAll queue).parent? other = none ∧
      (tree.forgetAll queue).children.get? other = none := by
  induction tree, queue using forgetAll.induct with
  | case1 tree =>
      obtain ⟨root, hroot, -⟩ := h
      simp at hroot
  | case2 tree id queue ih =>
      rw [forgetAll]
      by_cases hrest : (tree.forget id).BelowAny (queue ++ tree.childrenOf id) other
      · exact ih hrest
      · -- the node is the one that is forgotten now, and what follows does not change it
        obtain rfl : other = id := ((belowAny_cons_iff queue).mp h).resolve_right hrest
        obtain ⟨hget, hparent, hchildren⟩ := forgetAll_of_not_belowAny _ _ hrest
        rw [hget, hparent, hchildren, get?_forget, parent?_forget, children_get?_forget]
        simp

/-! ## Removing a node -/

/-- Forgetting touches nothing but the registries. -/
theorem forgetAll_frame (tree : Tree κ) (queue : List NodeId) :
    (tree.forgetAll queue).screens = tree.screens ∧
      (tree.forgetAll queue).context = tree.context ∧
      (tree.forgetAll queue).convention = tree.convention ∧
      (tree.forgetAll queue).generation = tree.generation ∧
      (tree.forgetAll queue).next = tree.next := by
  induction tree, queue using forgetAll.induct with
  | case1 tree =>
      rw [forgetAll]
      exact ⟨rfl, rfl, rfl, rfl, rfl⟩
  | case2 tree id queue ih =>
      rw [forgetAll]
      exact ih

/-- Nothing is added to the registries, and what stays in them keeps its order. -/
theorem keys_forgetAll_sublist (tree : Tree κ) (queue : List NodeId) :
    (tree.forgetAll queue).nodes.keys.Sublist tree.nodes.keys ∧
      (tree.forgetAll queue).children.keys.Sublist tree.children.keys ∧
      (tree.forgetAll queue).parents.keys.Sublist tree.parents.keys := by
  induction tree, queue using forgetAll.induct with
  | case1 tree =>
      rw [forgetAll]
      exact ⟨.refl _, .refl _, .refl _⟩
  | case2 tree id queue ih =>
      rw [forgetAll]
      obtain ⟨hnodes, hchildren, hparents⟩ := ih
      exact ⟨hnodes.trans (Registry.keys_erase_sublist _ id),
        hchildren.trans (Registry.keys_erase_sublist _ id),
        hparents.trans (Registry.keys_erase_sublist _ id)⟩

theorem keys_children_detach (tree : Tree κ) (id : NodeId) :
    (tree.detach id).children.keys = tree.children.keys := by
  unfold detach
  split
  · rfl
  · exact Registry.keys_modify _ _ _

theorem keys_remove_sublist (tree : Tree κ) (id : NodeId) :
    (tree.remove id).nodes.keys.Sublist tree.nodes.keys ∧
      (tree.remove id).children.keys.Sublist tree.children.keys ∧
      (tree.remove id).parents.keys.Sublist tree.parents.keys := by
  unfold remove
  split
  · obtain ⟨hnodes, hchildren, hparents⟩ := keys_forgetAll_sublist (tree.detach id) [id]
    exact ⟨hnodes, tree.keys_children_detach id ▸ hchildren, hparents⟩
  · exact ⟨.refl _, .refl _, .refl _⟩

section Detach

variable {tree : Tree κ} (h : tree.Consistent) (id : NodeId)
include h

/-- A detached node is in no list of children any more; the other children keep their order. -/
theorem children_get?_detach (other : NodeId) :
    (tree.detach id).children.get? other
      = (tree.children.get? other).map (·.filter (· ≠ id)) := by
  have hstays {above : NodeId} (hnot : id ∉ tree.childrenOf above) :
      tree.children.get? above = (tree.children.get? above).map (·.filter (· ≠ id)) := by
    cases hbelow : tree.children.get? above with
    | none => rfl
    | some below =>
        have hnot' : id ∉ below := by simpa [childrenOf, hbelow] using hnot
        rw [Option.map_some, List.filter_eq_self.mpr]
        intro child hchild
        exact decide_eq_true fun heq => hnot' (heq ▸ hchild)
  -- only the list of the parent can contain the node, and there is at most one parent
  cases hparent : tree.parent? id with
  | none =>
      have hsame : (tree.detach id).children = tree.children := by simp [detach, hparent]
      rw [hsame]
      exact hstays fun hmem => by simp [(h.parent_iff id other).mpr hmem] at hparent
  | some parent =>
      have hmodified : (tree.detach id).children
          = tree.children.modify parent (·.filter (· ≠ id)) := by simp [detach, hparent]
      rw [hmodified, Registry.get?_modify]
      split
      case isTrue => rfl
      case isFalse hother =>
        refine hstays fun hmem => hother ?_
        exact Option.some.inj (((h.parent_iff id other).mpr hmem).symm.trans hparent)

theorem childrenOf_detach (other : NodeId) :
    (tree.detach id).childrenOf other = (tree.childrenOf other).filter (· ≠ id) := by
  rw [childrenOf, children_get?_detach h, childrenOf]
  cases tree.children.get? other <;> rfl

theorem mem_childrenOf_detach_iff {child above : NodeId} :
    child ∈ (tree.detach id).childrenOf above ↔ child ∈ tree.childrenOf above ∧ child ≠ id := by
  rw [childrenOf_detach h, List.mem_filter, decide_eq_true_eq]

/-- Detaching a node changes nothing below it. -/
theorem below_detach_iff (other : NodeId) :
    (tree.detach id).BelowAny [id] other ↔ tree.Below id other := by
  -- a way down that came back to the detached node could as well have started there the last time
  have hdown {root other : NodeId} (hbelow : tree.Below root other) :
      (tree.detach id).Below root other ∨ (tree.detach id).Below id other := by
    induction hbelow with
    | self => exact Or.inl (.self _)
    | @child root child other hchild _ ih =>
        rcases ih with hkept | hrestarted
        · by_cases heq : child = id
          · exact Or.inr (heq ▸ hkept)
          · exact Or.inl (.child ((mem_childrenOf_detach_iff h id).mpr ⟨hchild, heq⟩) hkept)
        · exact Or.inr hrestarted
  constructor
  · rintro ⟨root, hroot, hbelow⟩
    obtain rfl := List.mem_singleton.mp hroot
    exact hbelow.mono fun _ _ hchild => ((mem_childrenOf_detach_iff h _).mp hchild).1
  · exact fun hbelow => ⟨id, List.mem_singleton_self id, (hdown hbelow).elim (·) (·)⟩

end Detach

/-- A tree from which some nodes are gone while the others are where they were. -/
structure Pruned (before after : Tree κ) (gone : NodeId → Prop) : Prop where
  sound : after.Sound
  get?_eq : ∀ id, ¬ gone id → after.get? id = before.get? id
  parent?_eq : ∀ id, ¬ gone id → after.parent? id = before.parent? id
  contains_eq_false : ∀ id, gone id → after.contains id = false
  convention_eq : after.convention = before.convention
  generation_eq : after.generation = before.generation
  next_eq : after.next = before.next

namespace Pruned

variable {before middle after : Tree κ} {gone gone' : NodeId → Prop}

theorem refl (h : before.Sound) : Pruned before before fun _ => False :=
  ⟨h, fun _ _ => rfl, fun _ _ => rfl, fun _ hgone => hgone.elim, rfl, rfl, rfl⟩

theorem trans (hfirst : Pruned before middle gone) (hsecond : Pruned middle after gone') :
    Pruned before after fun id => gone id ∨ gone' id where
  sound := hsecond.sound
  get?_eq id hid := by
    rw [not_or] at hid
    rw [hsecond.get?_eq id hid.2, hfirst.get?_eq id hid.1]
  parent?_eq id hid := by
    rw [not_or] at hid
    rw [hsecond.parent?_eq id hid.2, hfirst.parent?_eq id hid.1]
  contains_eq_false id hid := by
    by_cases hgone : gone' id
    · exact hsecond.contains_eq_false id hgone
    · have hfirst' := hfirst.contains_eq_false id (hid.resolve_right hgone)
      rw [← get?_eq_none_iff] at hfirst' ⊢
      exact (hsecond.get?_eq id hgone).trans hfirst'
  convention_eq := hsecond.convention_eq.trans hfirst.convention_eq
  generation_eq := hsecond.generation_eq.trans hfirst.generation_eq
  next_eq := hsecond.next_eq.trans hfirst.next_eq

theorem congr (h : Pruned before after gone) (hgone : ∀ id, gone' id ↔ gone id) :
    Pruned before after gone' := by
  obtain rfl : gone' = gone := funext fun id => propext (hgone id)
  exact h

theorem contains_eq (h : Pruned before after gone) {id : NodeId} (hid : ¬ gone id) :
    after.contains id = before.contains id :=
  contains_of_get?_eq (h.get?_eq id hid)

theorem contains_iff (h : Pruned before after gone) (id : NodeId) :
    after.contains id = true ↔ before.contains id = true ∧ ¬ gone id := by
  by_cases hid : gone id
  · simp [h.contains_eq_false id hid, hid]
  · simp [h.contains_eq hid, hid]

/-- The context has no part in what is pruned. -/
theorem withContext (h : Pruned before after gone) (context : Context) :
    Pruned before { after with context := context } gone :=
  ⟨h.sound.of_same_shape rfl rfl rfl rfl rfl, h.get?_eq, h.parent?_eq, h.contains_eq_false,
    h.convention_eq, h.generation_eq, h.next_eq⟩

end Pruned

section Remove

variable {tree : Tree κ} (h : tree.Consistent) (id : NodeId)
include h

/-- Whatever is removed, the other nodes keep their children in order, without the removed node. -/
theorem childrenOf_remove {other : NodeId} (hother : ¬ tree.Below id other) :
    (tree.remove id).childrenOf other = (tree.childrenOf other).filter (· ≠ id) := by
  unfold remove
  split
  case isTrue =>
    have hkept := (forgetAll_of_not_belowAny (tree.detach id) [id]
      (mt (below_detach_iff h id other).mp hother)).2.2
    rw [childrenOf, hkept, ← childrenOf_detach h]
    rfl
  case isFalse hid =>
    -- a node that is not in the tree is nobody's child
    refine (List.filter_eq_self.mpr fun child hchild => decide_eq_true ?_).symm
    rintro rfl
    exact hid (h.contains_of_parent child other ((h.parent_iff child other).mpr hchild))

theorem screens_remove : (tree.remove id).screens = tree.screens.filter (· ≠ id) := by
  unfold remove
  split
  case isTrue => exact (forgetAll_frame (tree.detach id) [id]).1
  case isFalse hid =>
    refine (List.filter_eq_self.mpr fun screen hscreen => decide_eq_true ?_).symm
    rintro rfl
    exact hid ((h.mem_screens_iff screen).mp hscreen).1

/-- What is at or below the removed node is gone from every registry. -/
theorem remove_of_below {other : NodeId} (hother : tree.Below id other) :
    (tree.remove id).get? other = none ∧ (tree.remove id).parent? other = none ∧
      (tree.remove id).children.get? other = none := by
  unfold remove
  split
  case isTrue =>
    exact forgetAll_of_belowAny (tree.detach id) [id] ((below_detach_iff h id other).mpr hother)
  case isFalse hid =>
    have hnone : tree.contains id = false := by simpa using hid
    obtain rfl := hother.eq_of_not_contains h hnone
    refine ⟨(get?_eq_none_iff _ _).mpr hnone, h.parent?_eq_none hnone, ?_⟩
    rw [Registry.get?_eq_none_iff, h.contains_children, hnone]

/-- Every other node holds what it held and stands where it stood. -/
theorem remove_of_not_below {other : NodeId} (hother : ¬ tree.Below id other) :
    (tree.remove id).get? other = tree.get? other ∧
      (tree.remove id).parent? other = tree.parent? other ∧
      (tree.remove id).children.contains other = tree.children.contains other := by
  unfold remove
  split
  case isTrue =>
    obtain ⟨hget, hparent, hchildren⟩ := forgetAll_of_not_belowAny (tree.detach id) [id]
      (mt (below_detach_iff h id other).mp hother)
    refine ⟨hget, hparent, ?_⟩
    rw [Registry.contains, hchildren, children_get?_detach h, Option.isSome_map]
    rfl
  case isFalse => exact ⟨rfl, rfl, rfl⟩

omit h in
theorem remove_frame :
    (tree.remove id).context = tree.context ∧ (tree.remove id).convention = tree.convention ∧
      (tree.remove id).generation = tree.generation ∧ (tree.remove id).next = tree.next := by
  unfold remove
  split
  · exact (forgetAll_frame (tree.detach id) [id]).2
  · exact ⟨rfl, rfl, rfl, rfl⟩

theorem contains_remove_of_below {other : NodeId} (hother : tree.Below id other) :
    (tree.remove id).contains other = false :=
  (get?_eq_none_iff _ _).mp (remove_of_below h id hother).1

theorem contains_remove_of_not_below {other : NodeId} (hother : ¬ tree.Below id other) :
    (tree.remove id).contains other = tree.contains other :=
  contains_of_get?_eq (remove_of_not_below h id hother).1

theorem contains_remove_iff (other : NodeId) :
    (tree.remove id).contains other = true ↔
      tree.contains other = true ∧ ¬ tree.Below id other := by
  by_cases hdown : tree.Below id other
  · simp [contains_remove_of_below h id hdown, hdown]
  · simp [contains_remove_of_not_below h id hdown, hdown]

theorem childrenOf_remove_of_below {other : NodeId} (hother : tree.Below id other) :
    (tree.remove id).childrenOf other = [] := by
  simp [childrenOf, (remove_of_below h id hother).2.2]

theorem parent?_remove_eq_some_iff {child above : NodeId} :
    (tree.remove id).parent? child = some above ↔
      ¬ tree.Below id child ∧ tree.parent? child = some above := by
  -- a node that is gone has no parent, every other one keeps its own
  by_cases hchild : tree.Below id child
  · rw [(remove_of_below h id hchild).2.1]
    simp [hchild]
  · rw [(remove_of_not_below h id hchild).2.1]
    simp [hchild]

/-- The nodes that are left stand in the lists of their parents, and in no others. -/
theorem parent_remove_iff {child above : NodeId} :
    (tree.remove id).parent? child = some above ↔ child ∈ (tree.remove id).childrenOf above := by
  rw [parent?_remove_eq_some_iff h id]
  by_cases hdown : tree.Below id above
  · -- whatever stood there was below the removed node as well
    rw [childrenOf_remove_of_below h id hdown]
    refine iff_of_false ?_ List.not_mem_nil
    rintro ⟨hchild, hold⟩
    exact hchild (hdown.of_parent h hold)
  · rw [childrenOf_remove h id hdown, List.mem_filter, decide_eq_true_eq, ← h.parent_iff]
    constructor
    · rintro ⟨hchild, hold⟩
      refine ⟨hold, ?_⟩
      rintro rfl
      exact hchild (.self child)
    · rintro ⟨hold, hne⟩
      refine ⟨fun hchild => ?_, hold⟩
      obtain ⟨above', habove', hdown'⟩ := hchild.parent h hne
      rw [hold] at habove'
      exact hdown (Option.some.inj habove' ▸ hdown')

/-- A removal leaves registries and screens that agree with each other. -/
theorem Consistent.remove : (tree.remove id).Consistent where
  contains_children other := by
    by_cases hdown : tree.Below id other
    · rw [contains_remove_of_below h id hdown, ← Registry.get?_eq_none_iff,
        (remove_of_below h id hdown).2.2]
    · rw [contains_remove_of_not_below h id hdown, (remove_of_not_below h id hdown).2.2,
        h.contains_children]
  parent_iff _ _ := parent_remove_iff h id
  contains_of_parent child above habove := by
    obtain ⟨hchild, hold⟩ := (parent?_remove_eq_some_iff h id).mp habove
    rw [contains_remove_of_not_below h id hchild]
    exact h.contains_of_parent child above hold
  mem_screens_iff other := by
    rw [screens_remove h id, List.mem_filter, decide_eq_true_eq, h.mem_screens_iff]
    by_cases hdown : tree.Below id other
    · rw [contains_remove_of_below h id hdown]
      -- what is strictly below a node has a parent, so it is no screen
      refine iff_of_false ?_ (by simp)
      rintro ⟨⟨-, horphan⟩, hne⟩
      obtain ⟨above, habove, -⟩ := hdown.parent h hne
      simp [habove] at horphan
    · have hne : other ≠ id := by
        rintro rfl
        exact hdown (.self other)
      simp [contains_remove_of_not_below h id hdown, (remove_of_not_below h id hdown).2.1, hne]

end Remove

/-- A removal keeps a tree sound. -/
theorem Sound.remove {tree : Tree κ} (h : tree.Sound) (id : NodeId) : (tree.remove id).Sound := by
  have hafter : (tree.remove id).Consistent := h.consistent.remove id
  obtain ⟨hnodes, hchildren, hparents⟩ := keys_remove_sublist tree id
  constructor
  case nodes_latestFirst => exact h.nodes_latestFirst.of_keys_sublist hnodes
  case children_latestFirst => exact h.children_latestFirst.of_keys_sublist hchildren
  case parents_latestFirst => exact h.parents_latestFirst.of_keys_sublist hparents
  case number_lt_next =>
    intro other hother
    rw [(remove_frame id).2.2.2]
    exact h.number_lt_next other ((contains_remove_iff h.consistent id other).mp hother).1
  case contains_children => exact hafter.contains_children
  case parent_iff => exact hafter.parent_iff
  case contains_of_parent => exact hafter.contains_of_parent
  case parent_lt =>
    intro child above habove
    exact h.parent_lt child above ((parent?_remove_eq_some_iff h.consistent id).mp habove).2
  case siblings_inOrder =>
    intro above
    by_cases hdown : tree.Below id above
    · rw [childrenOf_remove_of_below h.consistent id hdown]
      exact List.Pairwise.nil
    · rw [childrenOf_remove h.consistent id hdown]
      exact (h.siblings_inOrder above).filter _
  case screens_inOrder =>
    rw [screens_remove h.consistent id]
    exact h.screens_inOrder.filter _
  case mem_screens_iff => exact hafter.mem_screens_iff

/-- A removal prunes the node with everything below it. -/
theorem remove_pruned {tree : Tree κ} (h : tree.Sound) (id : NodeId) :
    Pruned tree (tree.remove id) (tree.Below id) where
  sound := h.remove id
  get?_eq _ hother := (remove_of_not_below h.consistent id hother).1
  parent?_eq _ hother := (remove_of_not_below h.consistent id hother).2.1
  contains_eq_false _ hother := contains_remove_of_below h.consistent id hother
  convention_eq := (remove_frame id).2.1
  generation_eq := (remove_frame id).2.2.1
  next_eq := (remove_frame id).2.2.2

/-- What is not below the removed node can still be reached from where it could be reached. -/
theorem Below.remove_or {tree : Tree κ} (h : tree.Consistent) {root other : NodeId} (id : NodeId)
    (hbelow : tree.Below root other) : tree.Below id other ∨ (tree.remove id).Below root other := by
  induction hbelow with
  | self other => exact Or.inr (.self other)
  | @child root child other hchild hdown ih =>
      rcases ih with hgone | hkept
      · exact Or.inl hgone
      · by_cases hroot : tree.Below id root
        · exact Or.inl (hroot.trans (.child hchild hdown))
        · by_cases heq : child = id
          · exact Or.inl (heq ▸ hdown)
          · refine Or.inr (.child ?_ hkept)
            rw [childrenOf_remove h id hroot]
            exact List.mem_filter.mpr ⟨hchild, decide_eq_true heq⟩

theorem Below.of_remove {tree : Tree κ} (h : tree.Consistent) {id root other : NodeId}
    (hbelow : (tree.remove id).Below root other) : tree.Below root other := by
  refine hbelow.mono fun above => ?_
  by_cases habove : tree.Below id above
  · rw [childrenOf_remove_of_below h id habove]
    exact List.nil_subset _
  · rw [childrenOf_remove h id habove]
    exact List.filter_subset_self _

end Storyboard.Tree
