import Storyboard.Proofs.Tree.Removal
import Storyboard.Tree.Walk

/-!
# Walks of a tree

A walk keeps a stack of nodes that are still to be visited and puts the children of the node it
visits on top.  If the nodes below any node are numbered without a gap (`Contiguous`), of two
siblings everything below the older one is older than the younger one, which is what the walk takes
for granted when it goes down into the older one first.  So it lists the nodes in the order in which
they were made (`Contiguous.walk_inOrder`), none of them twice, and it is never stopped by the
number of nodes, which bounds the visits, before it has come to all of them
(`Contiguous.mem_walk_iff`).
-/

namespace Storyboard.Tree

variable {κ : Type} {tree : Tree κ}

/-! ## What stands below a node -/

namespace Below

theorem number_le (h : tree.Sound) {root id : NodeId} (hbelow : tree.Below root id) :
    root.number ≤ id.number := by
  induction hbelow with
  | self => exact Nat.le_refl _
  | @child root child id hchild _ ih =>
      have hlt : root.number < child.number := h.child_lt hchild
      omega

/-- Every node stands below a screen. -/
theorem exists_screen (h : tree.Sound) {id : NodeId} (hid : tree.contains id = true) :
    ∃ screen ∈ tree.screens, tree.Below screen id := by
  -- the induction is on the number, which falls on the way up
  induction hnumber : id.number using Nat.strong_induction_on generalizing id with
  | _ number ih =>
      cases hparent : tree.parent? id with
      | none => exact ⟨id, (h.mem_screens_iff id).mpr ⟨hid, hparent⟩, .self id⟩
      | some parent =>
          have hlt : parent.number < number := hnumber ▸ h.parent_lt id parent hparent
          obtain ⟨screen, hscreen, hbelow⟩ := ih _ hlt (h.consistent.contains_parent hparent) rfl
          exact ⟨screen, hscreen, hbelow.of_parent h.consistent hparent⟩

end Below

theorem Sound.contains_child (h : tree.Sound) {parent child : NodeId}
    (hchild : child ∈ tree.childrenOf parent) : tree.contains child = true :=
  h.contains_of_parent child parent ((h.parent_iff child parent).mpr hchild)

theorem Sound.contains_screen (h : tree.Sound) {screen : NodeId} (hscreen : screen ∈ tree.screens) :
    tree.contains screen = true :=
  ((h.mem_screens_iff screen).mp hscreen).1

/-! ## What is visited -/

/-- What is visited stands below a node of the stack. -/
theorem below_of_mem_visit {fuel : Nat} {stack : List NodeId} {id : NodeId}
    (h : id ∈ tree.visit fuel stack) : tree.contains id = true ∧ tree.BelowAny stack id := by
  induction fuel generalizing stack with
  | zero => simp [visit] at h
  | succ fuel ih =>
      cases stack with
      | nil => simp [visit] at h
      | cons top stack =>
          unfold visit at h
          split at h
          · next htop =>
              rcases List.mem_cons.mp h with rfl | hlater
              · exact ⟨htop, id, List.mem_cons_self .., .self id⟩
              · obtain ⟨hid, root, hroot, hbelow⟩ := ih hlater
                refine ⟨hid, ?_⟩
                -- the root is a child of the node on top or was in the stack already
                rcases List.mem_append.mp hroot with hchild | hstack
                · exact ⟨top, List.mem_cons_self .., .child hchild hbelow⟩
                · exact ⟨root, List.mem_cons_of_mem _ hstack, hbelow⟩
          · obtain ⟨hid, root, hroot, hbelow⟩ := ih h
            exact ⟨hid, root, List.mem_cons_of_mem _ hroot, hbelow⟩

/-- A visit that does not use up its fuel comes to everything below the stack. -/
theorem mem_visit_of_below (h : tree.Sound) (fuel : Nat) (stack : List NodeId)
    (hstack : ∀ id ∈ stack, tree.contains id = true) :
    (∀ id, tree.BelowAny stack id → id ∈ tree.visit fuel stack) ∨
      (tree.visit fuel stack).length = fuel := by
  induction fuel generalizing stack with
  | zero => exact Or.inr rfl
  | succ fuel ih =>
      cases stack with
      | nil =>
          left
          rintro id ⟨root, hroot, -⟩
          simp at hroot
      | cons top stack =>
          unfold visit
          rw [if_pos (hstack top (List.mem_cons_self ..))]
          have hlive : ∀ id ∈ tree.childrenOf top ++ stack, tree.contains id = true := by
            intro id hid
            rcases List.mem_append.mp hid with hchild | hrest
            · exact h.contains_child hchild
            · exact hstack id (List.mem_cons_of_mem _ hrest)
          rcases ih _ hlive with hall | hfull
          · left
            rintro id ⟨root, hroot, hbelow⟩
            rcases List.mem_cons.mp hroot with rfl | hrest
            · cases hbelow with
              | self => exact List.mem_cons_self ..
              | child hchild hbelow =>
                  exact List.mem_cons_of_mem _ (hall id ⟨_, List.mem_append_left _ hchild, hbelow⟩)
            · exact List.mem_cons_of_mem _ (hall id ⟨root, List.mem_append_right _ hrest, hbelow⟩)
          · right
            rw [List.length_cons, hfull]

/-! ## Numbers without a gap -/

/-- What was made between a node and something below it stands below it as well. -/
def Contiguous (tree : Tree κ) : Prop :=
  ∀ root last id, tree.Below root last → tree.contains id = true →
    root.number ≤ id.number → id.number ≤ last.number → tree.Below root id

/-- Everything below a node of the stack is older than what comes later in the stack. -/
def Ahead (tree : Tree κ) (stack : List NodeId) : Prop :=
  stack.Pairwise fun earlier later => ∀ id, tree.Below earlier id → id.number < later.number

namespace Contiguous

variable (hcontiguous : tree.Contiguous) (h : tree.Sound)
include hcontiguous h

/-- What stands below a node is older than its younger siblings. -/
theorem lt_of_sibling {older younger id : NodeId}
    (hparent : tree.parent? younger = tree.parent? older)
    (hyounger : tree.contains younger = true) (hlt : older.number < younger.number)
    (hbelow : tree.Below older id) : id.number < younger.number := by
  by_contra hge
  -- otherwise the younger one would stand below the older one, and so would its parent
  have hunder : tree.Below older younger :=
    hcontiguous older id younger hbelow hyounger (Nat.le_of_lt hlt) (Nat.le_of_not_lt hge)
  have hne : younger ≠ older := fun heq => absurd (congrArg NodeId.number heq) (Nat.ne_of_gt hlt)
  obtain ⟨parent, habove, hunder'⟩ := hunder.parent h.consistent hne
  have hle : older.number ≤ parent.number := hunder'.number_le h
  have hgt : parent.number < older.number := h.parent_lt older parent (hparent ▸ habove)
  omega

theorem ahead_of_siblings {siblings : List NodeId} {parent : Option NodeId}
    (horder : InOrder siblings) (hlive : ∀ id ∈ siblings, tree.contains id = true)
    (hparent : ∀ id ∈ siblings, tree.parent? id = parent) : tree.Ahead siblings := by
  refine List.Pairwise.imp_of_mem ?_ horder
  intro older younger holder hyounger hlt id hbelow
  have hsame : tree.parent? younger = tree.parent? older := by
    rw [hparent younger hyounger, hparent older holder]
  exact hcontiguous.lt_of_sibling h hsame (hlive younger hyounger) hlt hbelow

theorem ahead_children (parent : NodeId) : tree.Ahead (tree.childrenOf parent) :=
  hcontiguous.ahead_of_siblings h (h.siblings_inOrder parent) (fun _ hid => h.contains_child hid)
    fun id hid => (h.parent_iff id parent).mpr hid

theorem ahead_screens : tree.Ahead tree.screens :=
  hcontiguous.ahead_of_siblings h h.screens_inOrder (fun _ hid => h.contains_screen hid)
    fun id hid => ((h.mem_screens_iff id).mp hid).2

/-- The children of the node on top come before the rest of the stack. -/
theorem ahead_push {top : NodeId} {stack : List NodeId} (hahead : tree.Ahead (top :: stack)) :
    tree.Ahead (tree.childrenOf top ++ stack) := by
  obtain ⟨htop, hstack⟩ := List.pairwise_cons.mp hahead
  refine List.pairwise_append.mpr ⟨hcontiguous.ahead_children h top, hstack, ?_⟩
  intro child hchild later hlater id hbelow
  exact htop later hlater id (.child hchild hbelow)

/-- A visit lists nodes in the order in which they were made. -/
theorem visit_inOrder (fuel : Nat) {stack : List NodeId} (hahead : tree.Ahead stack) :
    InOrder (tree.visit fuel stack) := by
  induction fuel generalizing stack with
  | zero => exact List.Pairwise.nil
  | succ fuel ih =>
      cases stack with
      | nil => exact List.Pairwise.nil
      | cons top stack =>
          obtain ⟨htop, hstack⟩ := List.pairwise_cons.mp hahead
          unfold visit
          split
          · refine List.pairwise_cons.mpr ⟨fun id hid => ?_, ih (hcontiguous.ahead_push h hahead)⟩
            obtain ⟨-, root, hroot, hbelow⟩ := below_of_mem_visit hid
            have hle : root.number ≤ id.number := hbelow.number_le h
            -- children are younger than their parent, and the rest of the stack is younger still
            have hlt : top.number < root.number := by
              rcases List.mem_append.mp hroot with hchild | hlater
              · exact h.child_lt hchild
              · exact htop root hlater top (.self top)
            omega
          · exact ih hstack

theorem walkFrom_inOrder (start : NodeId) : InOrder (tree.walkFrom start) :=
  hcontiguous.visit_inOrder h _ (List.pairwise_singleton _ _)

/-- A walk lists the nodes in the order in which they were made. -/
theorem walk_inOrder : InOrder tree.walk := by
  refine List.pairwise_flatMap.mpr ⟨fun screen _ => hcontiguous.walkFrom_inOrder h screen, ?_⟩
  refine List.Pairwise.imp_of_mem ?_ (hcontiguous.ahead_screens h)
  intro earlier later _ _ hahead id hid other hother
  obtain ⟨-, root, hroot, hbelow⟩ := below_of_mem_visit hid
  obtain ⟨-, root', hroot', hbelow'⟩ := below_of_mem_visit hother
  obtain rfl := List.mem_singleton.mp hroot
  obtain rfl := List.mem_singleton.mp hroot'
  have hlt : id.number < root'.number := hahead id hbelow
  have hle : root'.number ≤ other.number := hbelow'.number_le h
  omega

/-- A walk from a node comes to everything below it. -/
theorem mem_walkFrom_iff {start id : NodeId} (hstart : tree.contains start = true) :
    id ∈ tree.walkFrom start ↔ tree.Below start id := by
  constructor
  · intro hid
    obtain ⟨-, root, hroot, hbelow⟩ := below_of_mem_visit hid
    obtain rfl := List.mem_singleton.mp hroot
    exact hbelow
  · intro hbelow
    have hlive : ∀ id ∈ [start], tree.contains id = true := by
      intro id hid
      rw [List.mem_singleton.mp hid]
      exact hstart
    -- no node is visited twice, so there are fewer visits than fuel
    have hnodup := (hcontiguous.walkFrom_inOrder h start).nodup
    have hsubset : tree.walkFrom start ⊆ tree.nodes.keys := fun id hid =>
      (tree.nodes.mem_keys_iff id).mpr (below_of_mem_visit hid).1
    have hlength : (tree.walkFrom start).length ≤ tree.nodes.keys.length :=
      (List.subperm_of_subset hnodup hsubset).length_le
    rcases mem_visit_of_below h (tree.size + 1) [start] hlive with hall | hfull
    · exact hall id ⟨start, List.mem_singleton_self _, hbelow⟩
    · have hsize : tree.nodes.keys.length = tree.size := List.length_map _
      rw [walkFrom, hfull] at hlength
      omega

/-- A walk comes to every node. -/
theorem mem_walk_iff {id : NodeId} : id ∈ tree.walk ↔ tree.contains id = true := by
  constructor
  · intro hid
    obtain ⟨screen, -, hfrom⟩ := List.mem_flatMap.mp hid
    exact (below_of_mem_visit hfrom).1
  · intro hid
    obtain ⟨screen, hscreen, hbelow⟩ := Below.exists_screen h hid
    have hlive := h.contains_screen hscreen
    exact List.mem_flatMap.mpr ⟨screen, hscreen, (hcontiguous.mem_walkFrom_iff h hlive).mpr hbelow⟩

end Contiguous

end Storyboard.Tree
