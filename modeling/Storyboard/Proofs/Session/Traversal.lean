import Mathlib.Data.Bool.AllAny
import Storyboard.Proofs.Session.Pointing
import Storyboard.Proofs.Tree.Alike

/-!
# Document order in a session

Walks, queries and the outline all read the tree in the same order.  `Tree.Traversed` says what that
order is and what each of them makes of it, and `Reached.traversed` that this holds wherever a
program can be, whatever it has declared, attached by hand, edited, undone or cleared.

An outline is as good as the tree for whoever compares two of them: trees of legible nodes that two
programs have arrived at, on whatever ways, are alike if their outlines are the same
(`Reached.alike`).
-/

namespace Storyboard

namespace Tree

variable {κ : Type}

/-- The tree is read in document order, in which every node comes once. -/
structure Traversed (tree : Tree κ) : Prop where
  /-- The loop of a walk comes to an end, always with the same list. -/
  visits_iff : ∀ start visited, tree.Visits [start] visited ↔ visited = tree.walkFrom start
  /-- The list is the one that the recursion over the tree gives. -/
  preorder_iff : ∀ order, tree.Preorder order ↔ order = tree.walkFrom
  walkFrom_eq_nil : ∀ start, tree.contains start = false → tree.walkFrom start = []
  mem_walk_iff : ∀ id, id ∈ tree.walk ↔ tree.contains id = true
  nodup_walk : tree.walk.Nodup
  length_walk : tree.walk.length = tree.size
  /-- A node comes before its children, and these come in order. -/
  family : ∀ parent, tree.contains parent = true →
    (parent :: tree.childrenOf parent).Sublist tree.walk
  screens : tree.screens.Sublist tree.walk
  query_eq : ∀ test, tree.query test = tree.walk.filter fun id => (tree.get? id).any test
  queryId?_eq : ∀ text, tree.queryId? text = (tree.query fun node => node.id = text).head?
  outline_eq : tree.outline = "\n".intercalate (tree.walk.map tree.lineOf)
  /-- Lines are indented for every node above, each counted once. -/
  mem_ancestorsOf_iff : ∀ id other,
    other ∈ tree.ancestorsOf id ↔ other ≠ id ∧ tree.Below other id
  nodup_ancestorsOf : ∀ id, (tree.ancestorsOf id).Nodup

theorem query_eq_filter (tree : Tree κ) (test : Node κ → Bool) :
    tree.query test = tree.walk.filter fun id => (tree.get? id).any test := by
  refine List.filter_congr fun id _ => ?_
  rw [satisfies]
  cases tree.get? id with
  | none => rfl
  | some node => rfl

theorem queryId?_eq_head? (tree : Tree κ) (text : String) :
    tree.queryId? text = (tree.query fun node => node.id = text).head? := by
  rw [query, List.head?_filter, queryId?]

/-- A sound tree is read in document order. -/
theorem Sound.readInOrder {tree : Tree κ} (h : tree.Sound) : tree.Traversed where
  visits_iff start visited := by
    have hwalk : tree.Visits [start] (tree.walkFrom start) := h.preorder_walkFrom.visits h start
    refine ⟨fun hvisits => hvisits.unique hwalk, ?_⟩
    rintro rfl
    exact hwalk
  preorder_iff order := by
    refine ⟨fun horder => horder.unique h h.preorder_walkFrom, ?_⟩
    rintro rfl
    exact h.preorder_walkFrom
  walkFrom_eq_nil _ hstart := h.preorder_walkFrom.of_dead hstart
  mem_walk_iff _ := h.mem_walk_iff
  nodup_walk := h.nodup_walk
  length_walk := h.length_walk
  family _ hparent := h.family_sublist_walk hparent
  screens := h.screens_sublist_walk
  query_eq := tree.query_eq_filter
  queryId?_eq := tree.queryId?_eq_head?
  outline_eq := h.outline_eq
  mem_ancestorsOf_iff _ _ := Tree.mem_ancestorsOf_iff h
  nodup_ancestorsOf := Tree.nodup_ancestorsOf h

end Tree

/-- Wherever a program is, its tree is read in document order. -/
theorem Reached.traversed {config : Config} {calls : List Call} {session : Session}
    (h : Reached config calls session) : session.tree.Traversed :=
  h.oriented.toSound.readInOrder

/-- The panel is still open, and labels have been attached by hand to the screen and to the form. -/
def labelledSession : Session :=
  let label (text : String) : Node Callback :=
    Node.ofArgs (.widget .label) .alphanumeric (.text text)
  { panelSession with
    tree :=
      ((panelSession.tree.insertChild ⟨0⟩ (label "Help")).2.insertChild ⟨1⟩ (label "Name")).2 }

/-- The label of the form was made last, and the walk comes to it before that of the screen. -/
theorem traversed_labelled :
    Reached {} [.screen ⟨0⟩, .containerOpened ⟨1⟩, .containerOpened ⟨2⟩, .attached ⟨0⟩ ⟨3⟩,
        .attached ⟨1⟩ ⟨4⟩] labelledSession ∧
      labelledSession.tree.walk = [⟨0⟩, ⟨1⟩, ⟨2⟩, ⟨4⟩, ⟨3⟩] ∧
      labelledSession.tree.Traversed := by
  have hhelp : panelSession.tree.addWidget ⟨0⟩ (.text "Help") .label
      = .ok (⟨3⟩, (panelSession.tree.insertChild ⟨0⟩
          (Node.ofArgs (.widget .label) .alphanumeric (.text "Help"))).2) := rfl
  have hname : (panelSession.tree.insertChild ⟨0⟩
        (Node.ofArgs (.widget .label) .alphanumeric (.text "Help"))).2.addWidget ⟨1⟩
        (.text "Name") .label = .ok (⟨4⟩, labelledSession.tree) := rfl
  have hreached := Reached.run reached_panel (.step (.attached hhelp) (.single (.attached hname)))
  exact ⟨hreached, by decide, Reached.traversed hreached⟩

/-! ## Outlines that are the same -/

/-- Wherever two programs are, their trees are alike if these have the same outline and nothing but
legible nodes. -/
theorem Reached.alike {config config' : Config} {calls calls' : List Call} {session other : Session}
    (h : Reached config calls session) (hother : Reached config' calls' other)
    (hlegible : session.tree.Holds Node.Legible) (hlegible' : other.tree.Holds Node.Legible)
    (houtline : session.tree.outline = other.tree.outline) :
    List.Forall₂ (Tree.Alike session.tree other.tree) session.tree.screens other.tree.screens :=
  Tree.alike_of_outline_eq h.oriented.toSound hother.oriented.toSound hlegible hlegible' houtline

/-- A label with an id, a text of two lines and a style. -/
def noticeArgs : Args Callback :=
  .attributes
    { id := some "notice", text := some "a\n\"b\"", style := some (Style.empty.set "w" "3px") }

def noticeNode : Node Callback := Node.ofArgs (.widget .label) .alphanumeric noticeArgs

def rowNode : Node Callback := Node.ofArgs (.widget .row) .alphanumeric .none

/-- The screen with a row on it. -/
def rowTree : Tree Callback := (homeSession.tree.insertChild ⟨0⟩ rowNode).2

/-- A notice has been attached to the row, and then another one to the screen. -/
def innerFirstSession : Session :=
  { homeSession with
    tree := ((rowTree.insertChild ⟨1⟩ noticeNode).2.insertChild ⟨0⟩ noticeNode).2 }

/-- The notices have been attached the other way round. -/
def outerFirstSession : Session :=
  { homeSession with
    tree := ((rowTree.insertChild ⟨0⟩ noticeNode).2.insertChild ⟨1⟩ noticeNode).2 }

theorem legible_noticeNode : noticeNode.Legible where
  typeName_ne_empty := by decide
  typeName_plain := List.all_iff_forall_prop.mp (by decide)
  id_plain := List.all_iff_forall_prop.mp (by decide)
  style_read := ⟨"w: 3px", by decide +kernel⟩
  style_unbroken := by decide

theorem legible_rowTree : rowTree.Holds Node.Legible := by
  have hempty : Style.parse "" = .ok .empty := by decide +kernel
  have hscreen : ({ kind := .screen, text := "Home" } : Node Callback).Legible := {
    typeName_ne_empty := by decide
    typeName_plain := List.all_iff_forall_prop.mp (by decide)
    id_plain := nofun
    style_read := ⟨"", hempty⟩
    style_unbroken := nofun }
  have hrow : rowNode.Legible := {
    typeName_ne_empty := by decide
    typeName_plain := List.all_iff_forall_prop.mp (by decide)
    id_plain := nofun
    style_read := ⟨"", hempty⟩
    style_unbroken := nofun }
  exact ((Tree.Holds.ofConvention _).withScreen hscreen).insertChild hrow ⟨0⟩

/-- The nodes have other numbers, and the trees are alike. -/
theorem alike_notices :
    Reached {} [.screen ⟨0⟩, .attached ⟨0⟩ ⟨1⟩, .attached ⟨1⟩ ⟨2⟩, .attached ⟨0⟩ ⟨3⟩]
        innerFirstSession ∧
      Reached {} [.screen ⟨0⟩, .attached ⟨0⟩ ⟨1⟩, .attached ⟨0⟩ ⟨2⟩, .attached ⟨1⟩ ⟨3⟩]
        outerFirstSession ∧
      innerFirstSession.tree.Holds Node.Legible ∧ outerFirstSession.tree.Holds Node.Legible ∧
      innerFirstSession.tree.outline = outerFirstSession.tree.outline ∧
      innerFirstSession.tree.walk = [⟨0⟩, ⟨1⟩, ⟨2⟩, ⟨3⟩] ∧
      outerFirstSession.tree.walk = [⟨0⟩, ⟨1⟩, ⟨3⟩, ⟨2⟩] ∧
      List.Forall₂ (Tree.Alike innerFirstSession.tree outerFirstSession.tree)
        innerFirstSession.tree.screens outerFirstSession.tree.screens := by
  have hrow : homeSession.tree.addWidget ⟨0⟩ .none .row = .ok (⟨1⟩, rowTree) := rfl
  have hinner : rowTree.addWidget ⟨1⟩ noticeArgs .label
      = .ok (⟨2⟩, (rowTree.insertChild ⟨1⟩ noticeNode).2) := rfl
  have hinner' : (rowTree.insertChild ⟨1⟩ noticeNode).2.addWidget ⟨0⟩ noticeArgs .label
      = .ok (⟨3⟩, innerFirstSession.tree) := rfl
  have houter : rowTree.addWidget ⟨0⟩ noticeArgs .label
      = .ok (⟨2⟩, (rowTree.insertChild ⟨0⟩ noticeNode).2) := rfl
  have houter' : (rowTree.insertChild ⟨0⟩ noticeNode).2.addWidget ⟨1⟩ noticeArgs .label
      = .ok (⟨3⟩, outerFirstSession.tree) := rfl
  have hfirst := Reached.run reached_home
    (.step (.attached hrow) (.step (.attached hinner) (.single (.attached hinner'))))
  have hsecond := Reached.run reached_home
    (.step (.attached hrow) (.step (.attached houter) (.single (.attached houter'))))
  have hlegible : innerFirstSession.tree.Holds Node.Legible :=
    (legible_rowTree.insertChild legible_noticeNode ⟨1⟩).insertChild legible_noticeNode ⟨0⟩
  have hlegible' : outerFirstSession.tree.Holds Node.Legible :=
    (legible_rowTree.insertChild legible_noticeNode ⟨0⟩).insertChild legible_noticeNode ⟨1⟩
  have houtline : innerFirstSession.tree.outline = outerFirstSession.tree.outline := by
    decide +kernel
  exact ⟨hfirst, hsecond, hlegible, hlegible', houtline, by decide, by decide,
    Reached.alike hfirst hsecond hlegible hlegible' houtline⟩

end Storyboard
