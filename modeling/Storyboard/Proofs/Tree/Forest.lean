import Storyboard.Proofs.Tree.Order

/-!
# The tree as a forest

The nodes, the children and the parents of a tree are kept apart from each other and from its list
of screens.  `Forest` says that the four agree and that every node is reached from a screen.
`Sound` is the invariant behind it: it adds that nodes are numbered in the order in which they are
made, so that a parent always has a smaller number than its children and no node is above itself.
`Consistent` is the part of it that says nothing about the order.  Everything that makes a tree grow
keeps a tree sound.
-/

namespace Storyboard.Tree

variable {κ : Type}

/-- The node that is the given number of levels above another one, if there is one. -/
def ancestor? (tree : Tree κ) : Nat → NodeId → Option NodeId
  | 0, id => some id
  | levels + 1, id =>
      match tree.parent? id with
      | none => none
      | some parent => tree.ancestor? levels parent

/-- The registries and the list of screens of a tree agree, and its screens are the roots. -/
structure Forest (tree : Tree κ) : Prop where
  nodup_nodes : tree.nodes.keys.Nodup
  nodup_children : tree.children.keys.Nodup
  /-- The nodes are those that have a list of children. -/
  same_keys : ∀ id, id ∈ tree.nodes.keys ↔ id ∈ tree.children.keys
  /-- A node has the parent in whose list of children it stands. -/
  parent_iff : ∀ child parent,
    tree.parent? child = some parent ↔ child ∈ tree.childrenOf parent
  /-- A node stands there once. -/
  nodup_siblings : ∀ parent, (tree.childrenOf parent).Nodup
  nodup_screens : tree.screens.Nodup
  /-- The screens are the nodes without a parent. -/
  mem_screens_iff : ∀ id,
    id ∈ tree.screens ↔ tree.contains id = true ∧ tree.parent? id = none
  /-- The way up from a node ends at a screen. -/
  rooted : ∀ id, tree.contains id = true →
    ∃ levels, ∃ screen ∈ tree.screens, tree.ancestor? levels id = some screen

/-- A tree whose registries and lists agree and stand in the order in which nodes were made. -/
structure Sound (tree : Tree κ) : Prop where
  nodes_latestFirst : tree.nodes.LatestFirst
  children_latestFirst : tree.children.LatestFirst
  parents_latestFirst : tree.parents.LatestFirst
  number_lt_next : ∀ id, tree.contains id = true → id.number < tree.next
  contains_children : ∀ id, tree.children.contains id = tree.contains id
  parent_iff : ∀ child parent,
    tree.parent? child = some parent ↔ child ∈ tree.childrenOf parent
  contains_of_parent : ∀ child parent,
    tree.parent? child = some parent → tree.contains child = true
  parent_lt : ∀ child parent,
    tree.parent? child = some parent → parent.number < child.number
  siblings_inOrder : ∀ parent, InOrder (tree.childrenOf parent)
  screens_inOrder : InOrder tree.screens
  mem_screens_iff : ∀ id,
    id ∈ tree.screens ↔ tree.contains id = true ∧ tree.parent? id = none

/-- The registries and the list of screens of a tree agree with each other. -/
structure Consistent (tree : Tree κ) : Prop where
  contains_children : ∀ id, tree.children.contains id = tree.contains id
  parent_iff : ∀ child parent,
    tree.parent? child = some parent ↔ child ∈ tree.childrenOf parent
  contains_of_parent : ∀ child parent,
    tree.parent? child = some parent → tree.contains child = true
  mem_screens_iff : ∀ id,
    id ∈ tree.screens ↔ tree.contains id = true ∧ tree.parent? id = none

theorem Sound.consistent {tree : Tree κ} (h : tree.Sound) : tree.Consistent :=
  ⟨h.contains_children, h.parent_iff, h.contains_of_parent, h.mem_screens_iff⟩

theorem get?_eq_none_iff (tree : Tree κ) (id : NodeId) :
    tree.get? id = none ↔ tree.contains id = false :=
  Registry.get?_eq_none_iff _ _

theorem contains_of_get?_eq {first second : Tree κ} {id : NodeId}
    (h : first.get? id = second.get? id) : first.contains id = second.contains id := by
  have hnodes : first.nodes.get? id = second.nodes.get? id := h
  rw [contains, contains, Registry.contains, Registry.contains, hnodes]

namespace Consistent

variable {tree : Tree κ}

theorem childrenOf_eq_nil (h : tree.Consistent) {id : NodeId} (hid : tree.contains id = false) :
    tree.childrenOf id = [] := by
  have hnone : tree.children.get? id = none := by
    rw [Registry.get?_eq_none_iff, h.contains_children, hid]
  simp [childrenOf, hnone]

/-- The parent of a node is in the tree. -/
theorem contains_parent (h : tree.Consistent) {child parent : NodeId}
    (hparent : tree.parent? child = some parent) : tree.contains parent = true := by
  by_contra hnot
  have hmem := (h.parent_iff child parent).mp hparent
  rw [h.childrenOf_eq_nil (by simpa using hnot)] at hmem
  simp at hmem

theorem parent?_eq_none (h : tree.Consistent) {id : NodeId} (hid : tree.contains id = false) :
    tree.parent? id = none := by
  cases hparent : tree.parent? id with
  | none => rfl
  | some parent => simp [h.contains_of_parent id parent hparent] at hid

end Consistent

namespace Sound

variable {tree : Tree κ}

/-! ## What a sound tree looks like -/

/-- Numbers grow on the way down. -/
theorem child_lt (h : tree.Sound) {child parent : NodeId}
    (hchild : child ∈ tree.childrenOf parent) : parent.number < child.number :=
  h.parent_lt child parent ((h.parent_iff child parent).mpr hchild)

/-- A number that has not been given out is not taken. -/
theorem contains_of_next_le (h : tree.Sound) {id : NodeId} (hid : tree.next ≤ id.number) :
    tree.contains id = false := by
  by_contra hlive
  exact absurd (h.number_lt_next id (by simpa using hlive)) (Nat.not_lt.mpr hid)

/-- The way up ends, since numbers fall along it. -/
theorem rooted (h : tree.Sound) {id : NodeId} (hid : tree.contains id = true) :
    ∃ levels, ∃ screen ∈ tree.screens, tree.ancestor? levels id = some screen := by
  induction hnumber : id.number using Nat.strong_induction_on generalizing id with
  | _ number ih =>
      cases hparent : tree.parent? id with
      | none => exact ⟨0, id, (h.mem_screens_iff id).mpr ⟨hid, hparent⟩, rfl⟩
      | some parent =>
          have hlt : parent.number < number := hnumber ▸ h.parent_lt id parent hparent
          obtain ⟨levels, screen, hscreen, hroot⟩ :=
            ih _ hlt (h.consistent.contains_parent hparent) rfl
          exact ⟨levels + 1, screen, hscreen, by simpa [ancestor?, hparent] using hroot⟩

/-- A sound tree is a forest. -/
theorem isForest (h : tree.Sound) : tree.Forest where
  nodup_nodes := h.nodes_latestFirst.nodup_keys
  nodup_children := h.children_latestFirst.nodup_keys
  same_keys id := by
    rw [Registry.mem_keys_iff, Registry.mem_keys_iff, h.contains_children]
    rfl
  parent_iff := h.parent_iff
  nodup_siblings parent := (h.siblings_inOrder parent).nodup
  nodup_screens := h.screens_inOrder.nodup
  mem_screens_iff := h.mem_screens_iff
  rooted _ hid := h.rooted hid

/-! ## Changes that leave every node where it is -/

/-- Nothing that a sound tree keeps depends on what its nodes hold, on its context or on its
convention. -/
theorem of_same_shape {after : Tree κ} (h : tree.Sound)
    (hnodes : after.nodes.keys = tree.nodes.keys) (hchildren : after.children = tree.children)
    (hparents : after.parents = tree.parents) (hscreens : after.screens = tree.screens)
    (hnext : after.next = tree.next) : after.Sound := by
  have hcontains (id : NodeId) : after.contains id = tree.contains id :=
    Registry.contains_congr hnodes id
  have hparent (id : NodeId) : after.parent? id = tree.parent? id := by simp [parent?, hparents]
  have hbelow (id : NodeId) : after.childrenOf id = tree.childrenOf id := by
    simp [childrenOf, hchildren]
  constructor
  case nodes_latestFirst => exact h.nodes_latestFirst.of_keys_eq hnodes
  case children_latestFirst => exact hchildren ▸ h.children_latestFirst
  case parents_latestFirst => exact hparents ▸ h.parents_latestFirst
  case number_lt_next =>
    intro id
    rw [hcontains, hnext]
    exact h.number_lt_next id
  case contains_children =>
    intro id
    rw [hcontains, hchildren]
    exact h.contains_children id
  case parent_iff =>
    intro child parent
    rw [hparent, hbelow]
    exact h.parent_iff child parent
  case contains_of_parent =>
    intro child parent
    rw [hparent, hcontains]
    exact h.contains_of_parent child parent
  case parent_lt =>
    intro child parent
    rw [hparent]
    exact h.parent_lt child parent
  case siblings_inOrder =>
    intro parent
    rw [hbelow]
    exact h.siblings_inOrder parent
  case screens_inOrder => exact hscreens ▸ h.screens_inOrder
  case mem_screens_iff =>
    intro id
    rw [hscreens, hcontains, hparent]
    exact h.mem_screens_iff id

end Sound

/-! ## Trees without nodes -/

theorem sound_of_empty {tree : Tree κ} (hnodes : tree.nodes = .empty)
    (hchildren : tree.children = .empty) (hparents : tree.parents = .empty)
    (hscreens : tree.screens = []) : tree.Sound := by
  have hcontains (id : NodeId) : tree.contains id = false := by
    simp [contains, hnodes, Registry.contains, Registry.get?, Registry.empty]
  have hparent (id : NodeId) : tree.parent? id = none := by
    simp [parent?, hparents, Registry.get?, Registry.empty]
  have hbelow (id : NodeId) : tree.childrenOf id = [] := by
    simp [childrenOf, hchildren, Registry.get?, Registry.empty]
  constructor
  case nodes_latestFirst =>
    rw [hnodes]
    exact List.Pairwise.nil
  case children_latestFirst =>
    rw [hchildren]
    exact List.Pairwise.nil
  case parents_latestFirst =>
    rw [hparents]
    exact List.Pairwise.nil
  case number_lt_next => simp [hcontains]
  case contains_children =>
    simp [hcontains, hchildren, Registry.contains, Registry.get?, Registry.empty]
  case parent_iff => simp [hparent, hbelow]
  case contains_of_parent => simp [hparent]
  case parent_lt => simp [hparent]
  case siblings_inOrder =>
    intro parent
    rw [hbelow]
    exact List.Pairwise.nil
  case screens_inOrder =>
    rw [hscreens]
    exact List.Pairwise.nil
  case mem_screens_iff => simp [hscreens, hcontains]

theorem sound_ofConvention (convention : IdConvention) :
    (ofConvention convention : Tree κ).Sound :=
  sound_of_empty rfl rfl rfl rfl

theorem sound_clear (tree : Tree κ) : tree.clear.Sound :=
  sound_of_empty rfl rfl rfl rfl

/-! ## A new node -/

/-- The node that will be made next. -/
def fresh (tree : Tree κ) : NodeId := ⟨tree.next⟩

@[simp] theorem number_fresh (tree : Tree κ) : tree.fresh.number = tree.next := rfl

theorem ne_fresh (tree : Tree κ) {id : NodeId} (hid : id.number < tree.next) :
    id ≠ tree.fresh := by
  rintro rfl
  exact absurd hid (Nat.lt_irrefl _)

theorem Sound.contains_fresh {tree : Tree κ} (h : tree.Sound) :
    tree.contains tree.fresh = false :=
  h.contains_of_next_le (Nat.le_refl _)

section Insert

variable (tree : Tree κ) (node : Node κ) (parent other : NodeId)

theorem get?_insert :
    (tree.insert node).2.get? other = if other = tree.fresh then some node else tree.get? other :=
  Registry.get?_add _ _ _ _

theorem get?_insertChild :
    (tree.insertChild parent node).2.get? other
      = if other = tree.fresh then some node else tree.get? other :=
  Registry.get?_add _ _ _ _

theorem contains_insert :
    (tree.insert node).2.contains other = (decide (other = tree.fresh) || tree.contains other) := by
  have hget : (tree.insert node).2.nodes.get? other
      = if other = tree.fresh then some node else tree.nodes.get? other :=
    tree.get?_insert node other
  rw [contains, Registry.contains, hget]
  by_cases hother : other = tree.fresh <;> simp [hother, contains, Registry.contains]

theorem contains_insertChild :
    (tree.insertChild parent node).2.contains other
      = (decide (other = tree.fresh) || tree.contains other) :=
  tree.contains_insert node other

theorem parent?_insertChild :
    (tree.insertChild parent node).2.parent? other
      = if other = tree.fresh then some parent else tree.parent? other :=
  Registry.get?_add _ _ _ _

variable {tree parent}

theorem children_get?_insert :
    (tree.insert node).2.children.get? other
      = if other = tree.fresh then some [] else tree.children.get? other :=
  Registry.get?_add _ _ _ _

/-- A new screen has no children, and no other node has a new one. -/
theorem childrenOf_insert (h : tree.Sound) :
    (tree.insert node).2.childrenOf other = tree.childrenOf other := by
  rw [childrenOf, children_get?_insert]
  by_cases hother : other = tree.fresh
  · have hnil : tree.childrenOf tree.fresh = [] :=
      h.consistent.childrenOf_eq_nil h.contains_fresh
    simp [hother, hnil]
  · simp [hother, childrenOf]

/-- A new widget becomes the last child of its parent. -/
theorem childrenOf_insertChild (h : tree.Sound) (hparent : tree.contains parent = true) :
    (tree.insertChild parent node).2.childrenOf other
      = if other = parent then tree.childrenOf other ++ [tree.fresh]
        else tree.childrenOf other := by
  have hmodified : (tree.insertChild parent node).2.childrenOf other
      = (((tree.insert node).2.children.modify parent (· ++ [tree.fresh])).get? other).getD [] :=
    rfl
  rw [hmodified, Registry.get?_modify]
  by_cases hother : other = parent
  · have hne : parent ≠ tree.fresh := by
      rintro rfl
      simp [h.contains_fresh] at hparent
    have hsome : tree.children.contains parent = true := by
      rw [h.contains_children, hparent]
    obtain ⟨below, hbelow⟩ := Option.isSome_iff_exists.mp hsome
    rw [if_pos hother, if_pos hother, hother, children_get?_insert, if_neg hne, childrenOf, hbelow]
    simp
  · rw [if_neg hother, if_neg hother]
    exact childrenOf_insert node other h

end Insert

namespace Sound

variable {tree : Tree κ}

theorem contains_children_insert (h : tree.Sound) (node : Node κ) (id : NodeId) :
    (tree.insert node).2.children.contains id = (tree.insert node).2.contains id := by
  rw [contains_insert, ← h.contains_children id, Registry.contains, children_get?_insert]
  by_cases hid : id = tree.fresh <;> simp [hid, Registry.contains]

/-- The number of a node in the grown tree is below the number of the next one. -/
theorem number_lt_next_insert (h : tree.Sound) {id : NodeId}
    (hid : (decide (id = tree.fresh) || tree.contains id) = true) : id.number < tree.next + 1 := by
  rcases Bool.or_eq_true_iff.mp hid with hnew | hold
  · simp [of_decide_eq_true hnew, fresh]
  · exact Nat.lt_succ_of_lt (h.number_lt_next id hold)

/-- A new widget keeps a tree sound if its parent is in the tree. -/
theorem insertChild (h : tree.Sound) {parent : NodeId} (hparent : tree.contains parent = true)
    (node : Node κ) : (tree.insertChild parent node).2.Sound := by
  have hfresh : tree.contains tree.fresh = false := h.contains_fresh
  -- no node of the tree has the number of the new one
  have hold {id : NodeId} (hid : tree.contains id = true) : id ≠ tree.fresh := by
    rintro rfl
    simp [hfresh] at hid
  have horphan : tree.parent? tree.fresh = none := h.consistent.parent?_eq_none hfresh
  have hsibling {id : NodeId} (hid : id ∈ tree.childrenOf parent) : id.number < tree.next :=
    h.number_lt_next id (h.contains_of_parent id parent ((h.parent_iff id parent).mpr hid))
  constructor
  case nodes_latestFirst => exact h.nodes_latestFirst.add node h.number_lt_next
  case children_latestFirst =>
    have hadded : (tree.children.add tree.fresh []).LatestFirst :=
      h.children_latestFirst.add [] fun id hid =>
        h.number_lt_next id (h.contains_children id ▸ hid)
    exact hadded.of_keys_eq (Registry.keys_modify _ _ _)
  case parents_latestFirst =>
    refine h.parents_latestFirst.add parent fun id hid => ?_
    obtain ⟨above, habove⟩ := Option.isSome_iff_exists.mp hid
    exact h.number_lt_next id (h.contains_of_parent id above habove)
  case number_lt_next =>
    intro id hid
    exact h.number_lt_next_insert (tree.contains_insertChild node parent id ▸ hid)
  case contains_children =>
    intro id
    refine Eq.trans ?_ (h.contains_children_insert node id)
    exact Registry.contains_congr (Registry.keys_modify _ _ _) id
  case parent_iff =>
    intro child above
    rw [parent?_insertChild, childrenOf_insertChild node above h hparent]
    by_cases hchild : child = tree.fresh
    · subst hchild
      have hnot : tree.fresh ∉ tree.childrenOf above := by
        rw [← h.parent_iff, horphan]
        simp
      by_cases habove : above = parent
      · simp [habove]
      · simp [habove, hnot, Ne.symm habove]
    · by_cases habove : above = parent <;> simp [habove, hchild, h.parent_iff]
  case contains_of_parent =>
    intro child above habove
    rw [contains_insertChild]
    rw [parent?_insertChild] at habove
    by_cases hchild : child = tree.fresh
    · simp [hchild]
    · rw [if_neg hchild] at habove
      simp [h.contains_of_parent child above habove]
  case parent_lt =>
    intro child above habove
    rw [parent?_insertChild] at habove
    by_cases hchild : child = tree.fresh
    · rw [if_pos hchild] at habove
      rw [← Option.some.inj habove, hchild]
      exact h.number_lt_next parent hparent
    · rw [if_neg hchild] at habove
      exact h.parent_lt child above habove
  case siblings_inOrder =>
    intro above
    rw [childrenOf_insertChild node above h hparent]
    split
    case isTrue habove =>
      subst habove
      exact (h.siblings_inOrder above).concat fun id hid => hsibling hid
    case isFalse => exact h.siblings_inOrder above
  case screens_inOrder => exact h.screens_inOrder
  case mem_screens_iff =>
    intro id
    rw [contains_insertChild, parent?_insertChild]
    refine (h.mem_screens_iff id).trans ?_
    by_cases hid : id = tree.fresh <;> simp [hid, hfresh]

end Sound

/-! ## A new screen -/

/-- The tree with one more screen, which is the current one. -/
def withScreen (tree : Tree κ) (node : Node κ) : Tree κ :=
  { (tree.insert node).2 with
    screens := tree.screens ++ [tree.fresh]
    context := { screen := some tree.fresh } }

section WithScreen

variable (tree : Tree κ) (node : Node κ) (other : NodeId)

theorem contains_withScreen :
    (tree.withScreen node).contains other = (decide (other = tree.fresh) || tree.contains other) :=
  tree.contains_insert node other

theorem parent?_withScreen : (tree.withScreen node).parent? other = tree.parent? other := rfl

theorem childrenOf_withScreen {tree : Tree κ} (h : tree.Sound) :
    (tree.withScreen node).childrenOf other = tree.childrenOf other :=
  childrenOf_insert node other h

end WithScreen

/-- A new screen keeps a tree sound. -/
theorem Sound.withScreen {tree : Tree κ} (h : tree.Sound) (node : Node κ) :
    (tree.withScreen node).Sound := by
  have horphan : tree.parent? tree.fresh = none := h.consistent.parent?_eq_none h.contains_fresh
  constructor
  case nodes_latestFirst => exact h.nodes_latestFirst.add node h.number_lt_next
  case children_latestFirst =>
    exact h.children_latestFirst.add [] fun id hid =>
      h.number_lt_next id (h.contains_children id ▸ hid)
  case parents_latestFirst => exact h.parents_latestFirst
  case number_lt_next =>
    intro id hid
    exact h.number_lt_next_insert (tree.contains_insert node id ▸ hid)
  case contains_children => exact h.contains_children_insert node
  case parent_iff =>
    intro child parent
    rw [parent?_withScreen, childrenOf_withScreen node parent h]
    exact h.parent_iff child parent
  case contains_of_parent =>
    intro child parent hparent
    rw [contains_withScreen, h.contains_of_parent child parent hparent, Bool.or_true]
  case parent_lt => exact h.parent_lt
  case siblings_inOrder =>
    intro parent
    rw [childrenOf_withScreen node parent h]
    exact h.siblings_inOrder parent
  case screens_inOrder =>
    exact h.screens_inOrder.concat fun id hid =>
      h.number_lt_next id ((h.mem_screens_iff id).mp hid).1
  case mem_screens_iff =>
    intro id
    have hscreens : id ∈ (tree.withScreen node).screens ↔ id ∈ tree.screens ∨ id = tree.fresh := by
      simp [Tree.withScreen]
    rw [hscreens, contains_withScreen, parent?_withScreen, h.mem_screens_iff]
    by_cases hid : id = tree.fresh <;> simp [hid, horphan]

/-! ## Declarations -/

theorem addScreen_eq_ite (tree : Tree κ) (args : Args κ) :
    tree.addScreen args =
      if (Node.ofArgs .screen tree.convention args).text.isEmpty = true then
        .error (.invalidArguments "screen requires a title")
      else .ok (tree.fresh, tree.withScreen (Node.ofArgs .screen tree.convention args)) := rfl

/-- A screen that is added is the next node, and it comes after the other screens. -/
theorem addScreen_eq_ok {tree grown : Tree κ} {args : Args κ} {id : NodeId}
    (h : tree.addScreen args = .ok (id, grown)) :
    id = tree.fresh ∧ grown = tree.withScreen (Node.ofArgs .screen tree.convention args) := by
  rw [addScreen_eq_ite] at h
  split at h
  · cases h
  · cases h
    exact ⟨rfl, rfl⟩

/-- A widget that is added below a node is the next node. -/
theorem addWidget_eq_ok {tree grown : Tree κ} {parent id : NodeId} {args : Args κ}
    {kind : WidgetKind} (h : tree.addWidget parent args kind = .ok (id, grown)) :
    tree.contains parent = true ∧ id = tree.fresh ∧
      grown = (tree.insertChild parent (Node.ofArgs (.widget kind) tree.convention args)).2 := by
  unfold addWidget at h
  split at h
  case isTrue hparent =>
    cases h
    exact ⟨hparent, rfl, rfl⟩
  case isFalse => cases h

/-- Widgets go where the context points. -/
theorem destination_eq_ok {tree : Tree κ} {kind : WidgetKind} {strictRows : Bool} {parent : NodeId}
    (h : tree.destination kind strictRows = .ok parent) :
    tree.context.target? = some parent := by
  unfold destination at h
  cases hscreen : tree.context.screen with
  | none => simp [hscreen] at h
  | some screen =>
      cases hcontainer : tree.context.container? with
      | none =>
          simp only [hscreen, hcontainer] at h
          split at h
          · cases h
          · cases h
            simp [Context.target?, hcontainer, hscreen]
      | some container =>
          simp only [hscreen, hcontainer] at h
          cases h
          simp [Context.target?, hcontainer]

/-- A widget that is appended is the next node, and it stands below its destination. -/
theorem exists_destination {tree grown : Tree κ} {kind : WidgetKind} {args : Args κ}
    {strictRows : Bool} {id : NodeId}
    (h : tree.appendWidget kind args strictRows = .ok (id, grown)) :
    ∃ parent, tree.destination kind strictRows = .ok parent ∧ id = tree.fresh ∧
      grown = (tree.insertChild parent (Node.ofArgs (.widget kind) tree.convention args)).2 := by
  unfold appendWidget at h
  split at h
  case h_1 => cases h
  case h_2 parent hparent =>
    cases h
    exact ⟨parent, hparent, rfl, rfl⟩

/-- The destination of a widget is where the context points. -/
theorem appendWidget_eq_ok {tree grown : Tree κ} {kind : WidgetKind} {args : Args κ}
    {strictRows : Bool} {id : NodeId}
    (h : tree.appendWidget kind args strictRows = .ok (id, grown)) :
    ∃ parent, tree.context.target? = some parent ∧ id = tree.fresh ∧
      grown = (tree.insertChild parent (Node.ofArgs (.widget kind) tree.convention args)).2 := by
  obtain ⟨parent, hparent, hid, hgrown⟩ := exists_destination h
  exact ⟨parent, destination_eq_ok hparent, hid, hgrown⟩

end Storyboard.Tree
