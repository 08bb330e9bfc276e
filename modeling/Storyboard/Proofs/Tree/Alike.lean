import Storyboard.Proofs.Tree.Keeping
import Storyboard.Proofs.Tree.Line
import Storyboard.Proofs.Tree.Outline

/-!
# Trees with the same outline

Nothing of the shape of a tree gets lost in its outline either.  The lines are told apart by the
line feeds between them, and each line gives its node and how deep this stands.  From the depths
alone the shape is recovered: what stands below a node is what follows it, as long as it is deeper.
The comparison of two outlines goes along the lists that are yet to be compared (`SameRow`), and
comes to the next sibling exactly when the lines of everything below the last one are used up
(`alike_of_siblings`).
-/

namespace Storyboard.Tree

variable {κ : Type} {first second : Tree κ}

/-- What stands at the two nodes and below them has the same shape, and nodes in the same place look
alike. -/
inductive Alike (first second : Tree κ) : NodeId → NodeId → Prop
  | node {id other : NodeId} {node twin : Node κ} (hnode : first.get? id = some node)
      (htwin : second.get? other = some twin) (hlooks : node.LooksLike twin)
      (hchildren : List.Forall₂ (Alike first second) (first.childrenOf id)
        (second.childrenOf other)) :
      Alike first second id other

/-- The nodes look alike and stand equally deep. -/
structure SameRow (first second : Tree κ) (id other : NodeId) : Prop where
  depth_eq : (first.ancestorsOf id).length = (second.ancestorsOf other).length
  looksLike : ∃ node twin, first.get? id = some node ∧ second.get? other = some twin ∧
    node.LooksLike twin

/-! ## From outlines to rows -/

/-- Lines can be told apart if none is empty and none has a line feed in it. -/
theorem eq_of_intercalate_eq {lines others : List String}
    (hlines : ∀ line ∈ lines, line ≠ "" ∧ '\n' ∉ line.toList)
    (hothers : ∀ line ∈ others, line ≠ "" ∧ '\n' ∉ line.toList)
    (h : "\n".intercalate lines = "\n".intercalate others) : lines = others := by
  have hsplit := String.toList_split_intercalate fun line hline => (hlines line hline).2
  have hsplit' := String.toList_split_intercalate fun line hline => (hothers line hline).2
  rw [show String.singleton '\n' = "\n" from rfl] at hsplit hsplit'
  rw [h, hsplit'] at hsplit
  have hnot {lines : List String} (hlines : ∀ line ∈ lines, line ≠ "" ∧ '\n' ∉ line.toList) :
      lines ≠ [""] := by
    rintro rfl
    exact (hlines "" List.mem_cons_self).1 rfl
  split at hsplit <;> split at hsplit
  case isTrue.isTrue hnil hnil' => rw [hnil, hnil']
  case isTrue.isFalse => exact absurd hsplit.symm (hnot hlines)
  case isFalse.isTrue => exact absurd hsplit (hnot hothers)
  case isFalse.isFalse => exact hsplit.symm

theorem lineOf_of_get? {tree : Tree κ} {id : NodeId} {node : Node κ}
    (h : tree.get? id = some node) :
    tree.lineOf id = indented (tree.ancestorsOf id).length node := by
  rw [lineOf, h]

/-- The lines of legible nodes can be told apart. -/
theorem Sound.line_of_mem_walk {tree : Tree κ} (h : tree.Sound)
    (hlegible : tree.Holds Node.Legible) :
    ∀ line ∈ tree.walk.map tree.lineOf, line ≠ "" ∧ '\n' ∉ line.toList := by
  intro line hline
  obtain ⟨id, hid, rfl⟩ := List.mem_map.mp hline
  obtain ⟨node, hnode⟩ := Option.isSome_iff_exists.mp (h.mem_walk_iff.mp hid)
  have hnode_legible : node.Legible := hlegible id node hnode
  rw [lineOf_of_get? hnode]
  constructor
  · obtain ⟨c, rest, hcons, -⟩ := hnode_legible.exists_line_eq_cons
    intro hempty
    have hchars := congrArg String.toList hempty
    simp [indented, hcons] at hchars
  · simp [indented, Node.lineFeed_notMem_line hnode_legible]

/-- Lists that are mapped to the same list are related place by place. -/
theorem forall₂_of_map_eq {α β γ : Type} {relation : α → β → Prop} {f : α → γ} {g : β → γ}
    {ids : List α} {others : List β} (h : ids.map f = others.map g)
    (hrelated : ∀ id ∈ ids, ∀ other ∈ others, f id = g other → relation id other) :
    List.Forall₂ relation ids others := by
  induction ids generalizing others with
  | nil =>
      rw [List.map_nil, eq_comm, List.map_eq_nil_iff] at h
      rw [h]
      exact .nil
  | cons id ids ih =>
      cases others with
      | nil => cases h
      | cons other others =>
          obtain ⟨hhead, htail⟩ := List.cons.inj h
          refine .cons (hrelated id List.mem_cons_self other List.mem_cons_self hhead) (ih htail ?_)
          intro later hlater twin htwin
          exact hrelated later (List.mem_cons_of_mem id hlater) twin
            (List.mem_cons_of_mem other htwin)

/-- Trees with the same outline are walked through in the same rows. -/
theorem sameRow_of_outline_eq (hfirst : first.Sound) (hsecond : second.Sound)
    (hlegible : first.Holds Node.Legible) (hlegible' : second.Holds Node.Legible)
    (h : first.outline = second.outline) :
    List.Forall₂ (SameRow first second) first.walk second.walk := by
  rw [hfirst.outline_eq, hsecond.outline_eq] at h
  have hlines : first.walk.map first.lineOf = second.walk.map second.lineOf :=
    eq_of_intercalate_eq (hfirst.line_of_mem_walk hlegible) (hsecond.line_of_mem_walk hlegible') h
  refine forall₂_of_map_eq hlines fun id hid other hother hline => ?_
  obtain ⟨node, hnode⟩ := Option.isSome_iff_exists.mp (hfirst.mem_walk_iff.mp hid)
  obtain ⟨twin, htwin⟩ := Option.isSome_iff_exists.mp (hsecond.mem_walk_iff.mp hother)
  rw [lineOf_of_get? hnode, lineOf_of_get? htwin] at hline
  have hnode_legible : node.Legible := hlegible id node hnode
  have htwin_legible : twin.Legible := hlegible' other twin htwin
  obtain ⟨hdepth, hline⟩ := Node.eq_of_indented_eq hnode_legible htwin_legible hline
  exact ⟨hdepth, node, twin, hnode, htwin,
    Node.looksLike_of_line_eq hnode_legible htwin_legible hline⟩

/-! ## From rows to trees -/

/-- The nodes are in the tree and stand equally deep. -/
def Level (tree : Tree κ) (depth : Nat) (siblings : List NodeId) : Prop :=
  ∀ id ∈ siblings, tree.contains id = true ∧ (tree.ancestorsOf id).length = depth

/-- What comes next in the list, if anything, stands less deep. -/
def Rises (tree : Tree κ) (depth : Nat) (rest : List NodeId) : Prop :=
  ∀ id ∈ rest.head?, (tree.ancestorsOf id).length < depth

theorem Sound.level_screens {tree : Tree κ} (h : tree.Sound) : tree.Level 0 tree.screens := by
  intro screen hscreen
  obtain ⟨hlive, hroot⟩ := (h.mem_screens_iff screen).mp hscreen
  exact ⟨h.contains_screen hscreen, by rw [ancestorsOf_of_root hroot]; rfl⟩

theorem Sound.level_childrenOf {tree : Tree κ} (h : tree.Sound) (id : NodeId) :
    tree.Level ((tree.ancestorsOf id).length + 1) (tree.childrenOf id) := by
  intro child hchild
  have hparent : tree.parent? child = some id := (h.parent_iff child id).mpr hchild
  exact ⟨h.contains_child hchild, by rw [ancestorsOf_of_parent h hparent]; rfl⟩

/-- After a node come its siblings, or it goes up. -/
theorem Rises.of_siblings {tree : Tree κ} {order : NodeId → List NodeId}
    (horder : tree.Preorder order) {depth : Nat} {siblings rest : List NodeId}
    (hsiblings : tree.Level depth siblings) (hrest : tree.Rises depth rest) :
    tree.Rises (depth + 1) (siblings.flatMap order ++ rest) := by
  intro id hid
  cases siblings with
  | nil => exact Nat.lt_succ_of_lt (hrest id hid)
  | cons sibling siblings =>
      obtain ⟨hlive, hdepth⟩ := hsiblings sibling List.mem_cons_self
      rw [List.flatMap_cons, horder.of_live hlive] at hid
      obtain rfl : sibling = id := by simpa using hid
      omega

section

variable {order order' : NodeId → List NodeId}

/-- Wherever the rows of the node come first, and what follows them does not stand below the node,
the node that they are compared with is alike, and what follows on both sides has the same rows. -/
def Told (first second : Tree κ) (order order' : NodeId → List NodeId) (id : NodeId) : Prop :=
  ∀ other rest behind, first.contains id = true → second.contains other = true →
    first.Rises ((first.ancestorsOf id).length + 1) rest →
    second.Rises ((first.ancestorsOf id).length + 1) behind →
    List.Forall₂ (SameRow first second) (order id ++ rest) (order' other ++ behind) →
    Alike first second id other ∧ List.Forall₂ (SameRow first second) rest behind

variable (horder : first.Preorder order) (horder' : second.Preorder order')
include horder horder'

/-- Siblings are compared one after the other, and there are as many of them in both trees. -/
theorem alike_of_siblings {depth : Nat} {ids others rest behind : List NodeId}
    (htold : ∀ id ∈ ids, Told first second order order' id)
    (hids : first.Level depth ids) (hothers : second.Level depth others)
    (hrest : first.Rises depth rest) (hbehind : second.Rises depth behind)
    (h : List.Forall₂ (SameRow first second) (ids.flatMap order ++ rest)
      (others.flatMap order' ++ behind)) :
    List.Forall₂ (Alike first second) ids others ∧
      List.Forall₂ (SameRow first second) rest behind := by
  induction ids generalizing others with
  | nil =>
      cases others with
      | nil => exact ⟨.nil, h⟩
      | cons other others =>
          -- the other tree goes on at this depth, and this one does not
          obtain ⟨hlive, hdepth⟩ := hothers other List.mem_cons_self
          rw [List.flatMap_cons, horder'.of_live hlive] at h
          cases h with
          | cons hrow _ =>
              have hlt := hrest _ rfl
              have hsame := hrow.depth_eq
              omega
  | cons id ids ih =>
      obtain ⟨⟨hlive, hdepth⟩, hids_level⟩ := List.forall_mem_cons.mp hids
      cases others with
      | nil =>
          -- the other way round
          rw [List.flatMap_cons, horder.of_live hlive] at h
          cases h with
          | cons hrow _ =>
              have hlt := hbehind _ rfl
              have hsame := hrow.depth_eq
              omega
      | cons other others =>
          obtain ⟨⟨hlive', -⟩, hothers_level⟩ := List.forall_mem_cons.mp hothers
          obtain ⟨hid_told, hids_told⟩ := List.forall_mem_cons.mp htold
          rw [List.flatMap_cons, List.flatMap_cons, List.append_assoc, List.append_assoc] at h
          obtain ⟨halike, hmore⟩ := hid_told other _ _ hlive hlive'
            (hdepth ▸ Rises.of_siblings horder hids_level hrest)
            (hdepth ▸ Rises.of_siblings horder' hothers_level hbehind) h
          obtain ⟨hsiblings, hlater⟩ := ih hids_told hids_level hothers_level hmore
          exact ⟨.cons halike hsiblings, hlater⟩

/-- By induction from the leaves up: below the node its children are compared. -/
theorem told (hfirst : first.Sound) (hsecond : second.Sound) (id : NodeId) :
    Told first second order order' id := by
  induction id using hfirst.induction_up with
  | step id ih =>
      intro other rest behind hid hother hrest hbehind h
      rw [horder.of_live hid, horder'.of_live hother] at h
      cases h with
      | cons hrow hbelow =>
          obtain ⟨hdepth, node, twin, hnode, htwin, hlooks⟩ := hrow
          obtain ⟨hchildren, hmore⟩ := alike_of_siblings horder horder' ih
            (hfirst.level_childrenOf id) (hdepth ▸ hsecond.level_childrenOf other) hrest hbehind
            hbelow
          exact ⟨.node hnode htwin hlooks hchildren, hmore⟩

end

/-- Trees of legible nodes that have the same outline are alike. -/
theorem alike_of_outline_eq (hfirst : first.Sound) (hsecond : second.Sound)
    (hlegible : first.Holds Node.Legible) (hlegible' : second.Holds Node.Legible)
    (h : first.outline = second.outline) :
    List.Forall₂ (Alike first second) first.screens second.screens := by
  have hrows := sameRow_of_outline_eq hfirst hsecond hlegible hlegible' h
  have horder := hfirst.preorder_walkFrom
  have horder' := hsecond.preorder_walkFrom
  have hnone (tree : Tree κ) : tree.Rises 0 [] := fun id hid => by cases hid
  refine (alike_of_siblings horder horder' (fun id _ => told horder horder' hfirst hsecond id)
    hfirst.level_screens hsecond.level_screens (hnone first) (hnone second) ?_).1
  rw [List.append_nil, List.append_nil]
  exact hrows

end Storyboard.Tree
