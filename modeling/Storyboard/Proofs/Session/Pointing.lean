import Mathlib.Data.List.Chain
import Storyboard.Proofs.Session.Placement

/-!
# Nothing is declared outside of the tree

The context names nodes: a screen and the containers that are open on it.  Scopes and checkpoints
keep such names for as long as a block takes, while inner blocks declare screens, are undone, clear
the tree or panic.  Still, whenever something can be declared, every node that the context names is
in the tree: the screen is the last one, and the containers are a way down from it (`Points`).
-/

namespace Storyboard

namespace Tree

variable {κ : Type} {tree : Tree κ}

/-- The context names the last screen and a way down from it, so that widgets are put there. -/
structure Points (tree : Tree κ) : Prop where
  screen_eq : tree.context.screen = tree.screens.getLast?
  screen_eq_none_iff : tree.context.screen = none ↔ tree.screens = []
  contains_screen : ∀ screen, tree.context.screen = some screen → tree.contains screen = true
  contains_container : ∀ container ∈ tree.context.containers, tree.contains container = true
  /-- Each container is a child of the next outer one, and the outermost is one of the screen. -/
  path : ∀ screen, tree.context.screen = some screen →
    (tree.context.containers ++ [screen]).IsChain fun inner outer => inner ∈ tree.childrenOf outer
  closed : tree.context.screen = none → tree.context.containers = []
  /-- A widget that is taken gets a parent in the tree, at or below the last screen. -/
  routed : ∀ kind args strictRows id grown,
    tree.appendWidget kind args strictRows = .ok (id, grown) →
    ∃ parent screen, grown.parent? id = some parent ∧ tree.contains parent = true ∧
      tree.screens.getLast? = some screen ∧ tree.Below screen parent

namespace Linked

variable {screen : NodeId} {containers : List NodeId}

/-- With a screen, what receives the next widget is the first node of the way up to it. -/
theorem target?_eq_head? (screen : NodeId) (containers : List NodeId) :
    Context.target? { screen := some screen, containers := containers }
      = (containers ++ [screen]).head? := by
  cases containers with
  | nil => rfl
  | cons container rest => rfl

theorem isChain (h : tree.Linked (some screen) containers) (hsound : tree.Sound) :
    (containers ++ [screen]).IsChain fun inner outer => inner ∈ tree.childrenOf outer := by
  induction containers with
  | nil => exact List.isChain_singleton screen
  | cons container rest ih =>
      obtain ⟨⟨parent, hparent, htarget⟩, hrest⟩ := h
      rw [target?_eq_head?] at htarget
      refine List.isChain_cons.mpr ⟨fun outer houter => ?_, ih hrest⟩
      obtain rfl : parent = outer := Option.some.inj (htarget.symm.trans houter)
      exact (hsound.parent_iff container parent).mp hparent

/-- The open containers stand below the screen. -/
theorem below (h : tree.Linked (some screen) containers) (hsound : tree.Sound) :
    ∀ node ∈ containers ++ [screen], tree.Below screen node := by
  induction containers with
  | nil =>
      intro node hnode
      rw [List.mem_singleton.mp hnode]
      exact .self screen
  | cons container rest ih =>
      obtain ⟨⟨parent, hparent, htarget⟩, hrest⟩ := h
      rw [target?_eq_head?] at htarget
      have hbelow := ih hrest
      intro node hnode
      rcases List.mem_cons.mp hnode with rfl | hnode
      · exact (hbelow parent (List.mem_of_head? htarget)).of_parent hsound.consistent hparent
      · exact hbelow node hnode

end Linked

/-- An oriented tree points into itself. -/
theorem Oriented.pointing (h : tree.Oriented) : tree.Points where
  screen_eq := h.screen_eq
  screen_eq_none_iff := by rw [h.screen_eq, List.getLast?_eq_none_iff]
  contains_screen _ hscreen := h.contains_screen hscreen
  contains_container _ hcontainer := h.contains_container hcontainer
  path screen hscreen := by
    have hlinked := h.linked
    rw [hscreen] at hlinked
    exact hlinked.isChain h.toSound
  closed hscreen := by
    have hlinked := h.linked
    rw [hscreen] at hlinked
    exact hlinked.eq_nil
  routed kind args strictRows id grown hgrown := by
    obtain ⟨parent, htarget, rfl, rfl⟩ := appendWidget_eq_ok hgrown
    obtain ⟨screen, hscreen⟩ := h.exists_screen htarget
    have hlinked := h.linked
    rw [hscreen] at hlinked
    have hmem : parent ∈ tree.context.containers ++ [screen] := by
      apply List.mem_of_head?
      rw [← Linked.target?_eq_head?, ← hscreen]
      exact htarget
    refine ⟨parent, screen, ?_, h.contains_target htarget, ?_, hlinked.below h.toSound parent hmem⟩
    · rw [parent?_insertChild, if_pos rfl]
    · rw [← h.screen_eq, hscreen]

end Tree

/-- Wherever a program is, the context names nodes that are in the tree and a way down from the last
screen, so that no widget is put anywhere else. -/
theorem Reached.points {config : Config} {calls : List Call} {session : Session}
    (h : Reached config calls session) : session.tree.Points :=
  h.oriented.pointing

theorem reached_panel :
    Reached {} [.screen ⟨0⟩, .containerOpened ⟨1⟩, .containerOpened ⟨2⟩] panelSession :=
  .enter (.enter reached_home opens_table) opens_panel

theorem points_panel :
    Reached {} [.screen ⟨0⟩, .containerOpened ⟨1⟩, .containerOpened ⟨2⟩] panelSession ∧
      panelSession.tree.context = { screen := some ⟨0⟩, containers := [⟨2⟩, ⟨1⟩] } ∧
      panelSession.tree.Points :=
  ⟨reached_panel, rfl, Reached.points reached_panel⟩

end Storyboard
