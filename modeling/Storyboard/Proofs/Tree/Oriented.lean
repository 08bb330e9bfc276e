import Storyboard.Proofs.Tree.Forest

/-!
# The context points into the tree

The current screen of a context is the last one of the tree, and the open containers stand below
each other and below that screen.  `Oriented` is the invariant; with it a widget that is added where
the context points always finds its parent in the tree (`Oriented.contains_target`).
-/

namespace Storyboard.Tree

variable {κ : Type}

/-- Each container stands below what receives the next widget once the container is closed. -/
def Linked (tree : Tree κ) (screen : Option NodeId) : List NodeId → Prop
  | [] => True
  | container :: rest =>
      (∃ parent, tree.parent? container = some parent ∧
        Context.target? { screen := screen, containers := rest } = some parent) ∧
      tree.Linked screen rest

/-- A sound tree whose context points into it. -/
structure Oriented (tree : Tree κ) : Prop extends Sound tree where
  screen_eq : tree.context.screen = tree.screens.getLast?
  linked : tree.Linked tree.context.screen tree.context.containers

/-- What the nodes hold may differ, and nothing else but the convention. -/
structure SameShape (before after : Tree κ) : Prop where
  keys_eq : after.nodes.keys = before.nodes.keys
  children_eq : after.children = before.children
  parents_eq : after.parents = before.parents
  screens_eq : after.screens = before.screens
  context_eq : after.context = before.context
  generation_eq : after.generation = before.generation
  next_eq : after.next = before.next

namespace SameShape

variable {before after : Tree κ}

theorem refl (tree : Tree κ) : SameShape tree tree := ⟨rfl, rfl, rfl, rfl, rfl, rfl, rfl⟩

/-- A node is changed in place. -/
theorem modify (tree : Tree κ) (id : NodeId) (change : Node κ → Node κ) :
    SameShape tree (tree.modify id change) :=
  ⟨Registry.keys_modify _ _ _, rfl, rfl, rfl, rfl, rfl, rfl⟩

theorem contains (h : SameShape before after) (id : NodeId) :
    after.contains id = before.contains id :=
  Registry.contains_congr h.keys_eq id

theorem parent? (h : SameShape before after) (id : NodeId) :
    after.parent? id = before.parent? id := by
  simp [Tree.parent?, h.parents_eq]

end SameShape

namespace Linked

variable {before after : Tree κ} {screen : Option NodeId} {containers : List NodeId}

/-- Being linked depends on the parents of the containers only. -/
theorem congr (h : before.Linked screen containers)
    (hparent : ∀ container ∈ containers, after.parent? container = before.parent? container) :
    after.Linked screen containers := by
  induction containers with
  | nil => trivial
  | cons container rest ih =>
      obtain ⟨⟨parent, habove, htarget⟩, hrest⟩ := h
      refine ⟨⟨parent, ?_, htarget⟩, ih hrest fun other hother =>
        hparent other (List.mem_cons_of_mem _ hother)⟩
      rw [hparent container (List.mem_cons_self ..), habove]

theorem contains (hsound : before.Sound) (h : before.Linked screen containers) :
    ∀ container ∈ containers, before.contains container = true := by
  induction containers with
  | nil => simp
  | cons container rest ih =>
      obtain ⟨⟨parent, habove, -⟩, hrest⟩ := h
      intro other hother
      rcases List.mem_cons.mp hother with rfl | hother
      · exact hsound.contains_of_parent other parent habove
      · exact ih hrest other hother

/-- Without a screen no container is open. -/
theorem eq_nil (h : before.Linked none containers) : containers = [] := by
  induction containers with
  | nil => rfl
  | cons container rest ih =>
      obtain ⟨⟨parent, -, htarget⟩, hrest⟩ := h
      rw [ih hrest] at htarget
      simp [Context.target?, Context.container?] at htarget

end Linked

namespace Oriented

variable {tree : Tree κ}

theorem contains_screen (h : tree.Oriented) {screen : NodeId}
    (hscreen : tree.context.screen = some screen) : tree.contains screen = true := by
  rw [h.screen_eq] at hscreen
  exact ((h.mem_screens_iff screen).mp (List.mem_of_getLast? hscreen)).1

theorem contains_container (h : tree.Oriented) {container : NodeId}
    (hcontainer : container ∈ tree.context.containers) : tree.contains container = true :=
  h.linked.contains h.toSound container hcontainer

/-- What receives the next widget is in the tree. -/
theorem contains_target (h : tree.Oriented) {target : NodeId}
    (htarget : tree.context.target? = some target) : tree.contains target = true := by
  unfold Context.target? Context.container? at htarget
  cases hcontainers : tree.context.containers with
  | nil =>
      rw [hcontainers] at htarget
      exact h.contains_screen htarget
  | cons container rest =>
      rw [hcontainers] at htarget
      obtain rfl : container = target := Option.some.inj htarget
      exact h.contains_container (by simp [hcontainers])

/-- A current screen stands nowhere. -/
theorem parent?_screen (h : tree.Oriented) {screen : NodeId}
    (hscreen : tree.context.screen = some screen) : tree.parent? screen = none := by
  rw [h.screen_eq] at hscreen
  exact ((h.mem_screens_iff screen).mp (List.mem_of_getLast? hscreen)).2

/-! ## What keeps a tree oriented -/

/-- What the nodes hold does not matter. -/
theorem reshape {after : Tree κ} (h : tree.Oriented) (hshape : SameShape tree after) :
    after.Oriented where
  toSound := h.toSound.of_same_shape hshape.keys_eq hshape.children_eq hshape.parents_eq
    hshape.screens_eq hshape.next_eq
  screen_eq := by rw [hshape.context_eq, hshape.screens_eq, h.screen_eq]
  linked := by
    rw [hshape.context_eq]
    exact h.linked.congr fun container _ => hshape.parent? container

/-- Without a screen in the context there is none in the tree, and conversely. -/
theorem of_empty (hsound : tree.Sound) (hscreens : tree.screens = [])
    (hcontext : tree.context = {}) : tree.Oriented where
  toSound := hsound
  screen_eq := by simp [hcontext, hscreens]
  linked := by simp [hcontext, Linked]

/-- A new screen is the last one, and no container is open on it. -/
theorem withScreen (h : tree.Oriented) (node : Node κ) : (tree.withScreen node).Oriented where
  toSound := h.toSound.withScreen node
  screen_eq := by simp [Tree.withScreen]
  linked := trivial

/-- A new widget leaves the context where it points. -/
theorem insertChild (h : tree.Oriented) {parent : NodeId} (hparent : tree.contains parent = true)
    (node : Node κ) : (tree.insertChild parent node).2.Oriented where
  toSound := h.toSound.insertChild hparent node
  screen_eq := h.screen_eq
  linked := by
    refine h.linked.congr fun container hcontainer => ?_
    rw [parent?_insertChild, if_neg]
    rintro rfl
    simpa [h.contains_fresh] using h.contains_container hcontainer

/-- The container of a block is opened where the context points. -/
theorem enterContainer (h : tree.Oriented) {container parent : NodeId}
    (htarget : tree.context.target? = some parent)
    (hparent : tree.parent? container = some parent) :
    { tree with context := (tree.context.enterContainer container).2 }.Oriented where
  toSound := h.toSound.of_same_shape rfl rfl rfl rfl rfl
  screen_eq := h.screen_eq
  linked := ⟨⟨parent, hparent, htarget⟩, h.linked.congr fun _ _ => rfl⟩

end Oriented

end Storyboard.Tree
