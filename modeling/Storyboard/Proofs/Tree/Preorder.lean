import Storyboard.Proofs.Tree.Walk

/-!
# The order of a walk

A walk is a loop over a stack and knows nothing of where it is in the tree.  What it is meant to
list is said by recursion: a node comes first, and then, for each of its children in turn, what that
child lists (`Preorder`).  On a sound tree there is exactly one such order (`preorder_subtree`,
`Preorder.unique`), since numbers rise on the way down, and no two children have a node below them
in common, so that it lists no node twice (`Preorder.nodup`).

The loop has no bound of its own (`Visits`).  It comes to an end with what the recursion lists
(`Preorder.visits`), and before the bound that `walkFrom` puts on the visits is used up
(`Preorder.walkFrom_eq`).
-/

namespace Storyboard.Tree

variable {κ : Type} {tree : Tree κ}

/-! ## Ways that meet -/

/-- Induction from the leaves up: a property holds of a node if it holds of its children. -/
theorem Sound.induction_up (h : tree.Sound) {motive : NodeId → Prop}
    (step : ∀ id, (∀ child ∈ tree.childrenOf id, motive child) → motive id) (id : NodeId) :
    motive id := by
  -- the distance to the next number falls on the way down
  induction hdistance : tree.next - id.number using Nat.strong_induction_on generalizing id with
  | _ distance ih =>
      refine step id fun child hchild => ih _ ?_ child rfl
      have hlt : id.number < child.number := h.child_lt hchild
      have hlive : child.number < tree.next := h.number_lt_next child (h.contains_child hchild)
      omega

namespace Below

theorem contains (h : tree.Sound) {root id : NodeId} (hbelow : tree.Below root id)
    (hroot : tree.contains root = true) : tree.contains id = true := by
  induction hbelow with
  | self => exact hroot
  | child hchild _ ih => exact ih (h.contains_child hchild)

/-- Two nodes above the same one stand above each other. -/
theorem total (h : tree.Sound) {first second id : NodeId} (hfirst : tree.Below first id)
    (hsecond : tree.Below second id) : tree.Below first second ∨ tree.Below second first := by
  -- the induction is on the way down from the first node
  induction hfirst with
  | self => exact Or.inr hsecond
  | @child root child id hchild _ ih =>
      rcases ih hsecond with hunder | hover
      · exact Or.inl (.child hchild hunder)
      · by_cases heq : child = second
        · subst heq
          exact Or.inl (.child hchild (.self child))
        · obtain ⟨parent, hparent, habove⟩ := hover.parent h.consistent heq
          have hroot : tree.parent? child = some root := (h.parent_iff child root).mpr hchild
          obtain rfl : parent = root := Option.some.inj (hparent.symm.trans hroot)
          exact Or.inr habove

theorem eq_of_same_parent (h : tree.Sound) {first second : NodeId}
    (hbelow : tree.Below first second) (hparent : tree.parent? first = tree.parent? second) :
    first = second := by
  by_contra hne
  obtain ⟨parent, habove, hunder⟩ := hbelow.parent h.consistent fun heq => hne heq.symm
  have hle : first.number ≤ parent.number := hunder.number_le h
  have hlt : parent.number < first.number := h.parent_lt first parent (hparent.trans habove)
  omega

/-- Siblings have nothing below them in common. -/
theorem eq_of_siblings (h : tree.Sound) {first second id : NodeId}
    (hparent : tree.parent? first = tree.parent? second) (hfirst : tree.Below first id)
    (hsecond : tree.Below second id) : first = second := by
  rcases hfirst.total h hsecond with hunder | hover
  · exact hunder.eq_of_same_parent h hparent
  · exact (hover.eq_of_same_parent h hparent.symm).symm

end Below

/-! ## The recursive order -/

/-- The order lists a node and then, for each of its children in turn, what that child lists; for a
node that is not in the tree it lists nothing. -/
def Preorder (tree : Tree κ) (order : NodeId → List NodeId) : Prop :=
  ∀ id, order id = if tree.contains id then id :: (tree.childrenOf id).flatMap order else []

/-- A node and what stands below it, down to `levels` levels. -/
def subtreeTo (tree : Tree κ) : Nat → NodeId → List NodeId
  | 0, _ => []
  | levels + 1, id =>
      if tree.contains id then id :: (tree.childrenOf id).flatMap (tree.subtreeTo levels) else []

/-- A node and everything below it.  There are no more levels than numbers that are greater. -/
def subtree (tree : Tree κ) (id : NodeId) : List NodeId :=
  tree.subtreeTo (tree.next - id.number) id

theorem subtreeTo_eq_nil {id : NodeId} (hid : tree.contains id = false) (levels : Nat) :
    tree.subtreeTo levels id = [] := by
  cases levels with
  | zero => rfl
  | succ levels => simp [subtreeTo, hid]

/-- More levels than there are numbers left add nothing. -/
theorem subtreeTo_eq_subtree (h : tree.Sound) {levels : Nat} {id : NodeId}
    (hlevels : tree.next ≤ id.number + levels) : tree.subtreeTo levels id = tree.subtree id := by
  induction levels using Nat.strong_induction_on generalizing id with
  | _ levels ih =>
      rw [subtree]
      cases hid : tree.contains id with
      | false => rw [subtreeTo_eq_nil hid, subtreeTo_eq_nil hid]
      | true =>
          have hlt : id.number < tree.next := h.number_lt_next id hid
          obtain ⟨more, hmore⟩ : ∃ more, levels = more + 1 :=
            Nat.exists_eq_succ_of_ne_zero (by omega)
          obtain ⟨own, hown⟩ : ∃ own, tree.next - id.number = own + 1 :=
            Nat.exists_eq_succ_of_ne_zero (by omega)
          rw [hown, hmore, subtreeTo, subtreeTo]
          congr 2
          refine List.flatMap_congr fun child hchild => ?_
          have hchild_lt : id.number < child.number := h.child_lt hchild
          rw [ih more (by omega) (by omega), ih own (by omega) (by omega)]

theorem preorder_subtree (h : tree.Sound) : tree.Preorder tree.subtree := by
  intro id
  cases hid : tree.contains id with
  | false => exact subtreeTo_eq_nil hid _
  | true =>
      have hlt : id.number < tree.next := h.number_lt_next id hid
      have henough : tree.next ≤ id.number + (tree.next - id.number + 1) := by omega
      rw [← subtreeTo_eq_subtree h henough, subtreeTo, if_pos hid, if_pos rfl]
      congr 1
      refine List.flatMap_congr fun child hchild => subtreeTo_eq_subtree h ?_
      have hchild_lt : id.number < child.number := h.child_lt hchild
      omega

namespace Preorder

variable {order : NodeId → List NodeId} (horder : tree.Preorder order)
include horder

theorem of_live {id : NodeId} (hid : tree.contains id = true) :
    order id = id :: (tree.childrenOf id).flatMap order := by
  rw [horder id, if_pos hid]

theorem of_dead {id : NodeId} (hid : tree.contains id = false) : order id = [] := by
  rw [horder id, hid]
  rfl

open List in
/-- Whatever lists its members one by one keeps them in order. -/
theorem sublist_flatMap {ids : List NodeId} (hids : ∀ id ∈ ids, tree.contains id = true) :
    ids <+ ids.flatMap order := by
  induction ids with
  | nil => exact .slnil
  | cons id ids ih =>
      have hid : tree.contains id = true := hids id (mem_cons_self ..)
      have hrest : ids <+ ids.flatMap order :=
        ih fun other hother => hids other (mem_cons_of_mem _ hother)
      rw [flatMap_cons, horder.of_live hid, cons_append]
      exact (hrest.trans (sublist_append_right ..)).cons_cons id

variable (h : tree.Sound)
include h

/-- There is only one such order. -/
theorem unique {other : NodeId → List NodeId} (hother : tree.Preorder other) : order = other := by
  funext id
  induction id using h.induction_up with
  | step id ih => rw [horder id, hother id, List.flatMap_congr ih]

theorem mem_iff {root id : NodeId} :
    id ∈ order root ↔ tree.contains root = true ∧ tree.Below root id := by
  induction root using h.induction_up with
  | step root ih =>
      cases hroot : tree.contains root with
      | false => simp [horder.of_dead hroot]
      | true =>
          rw [horder.of_live hroot, List.mem_cons, List.mem_flatMap]
          constructor
          · rintro (rfl | ⟨child, hchild, hid⟩)
            · exact ⟨rfl, .self _⟩
            · exact ⟨rfl, .child hchild ((ih child hchild).mp hid).2⟩
          · rintro ⟨-, hbelow⟩
            cases hbelow with
            | self => exact Or.inl rfl
            | @child _ child _ hchild hbelow =>
                have hlive : tree.contains child = true := h.contains_child hchild
                exact Or.inr ⟨child, hchild, (ih child hchild).mpr ⟨hlive, hbelow⟩⟩

theorem contains_of_mem {root id : NodeId} (hid : id ∈ order root) : tree.contains id = true := by
  obtain ⟨hroot, hbelow⟩ := (horder.mem_iff h).mp hid
  exact hbelow.contains h hroot

/-- What siblings list is disjoint. -/
theorem nodup_flatMap {siblings : List NodeId} {parent : Option NodeId}
    (hsiblings : siblings.Nodup) (hparent : ∀ id ∈ siblings, tree.parent? id = parent)
    (hnodup : ∀ id ∈ siblings, (order id).Nodup) : (siblings.flatMap order).Nodup := by
  refine List.nodup_flatMap.mpr ⟨hnodup, List.Pairwise.imp_of_mem ?_ hsiblings⟩
  intro first second hfirst hsecond hne id hid hid'
  have hsame : tree.parent? first = tree.parent? second := by
    rw [hparent first hfirst, hparent second hsecond]
  exact hne (Below.eq_of_siblings h hsame ((horder.mem_iff h).mp hid).2
    ((horder.mem_iff h).mp hid').2)

/-- No node is listed twice. -/
theorem nodup (root : NodeId) : (order root).Nodup := by
  induction root using h.induction_up with
  | step root ih =>
      cases hroot : tree.contains root with
      | false => simp [horder.of_dead hroot]
      | true =>
          rw [horder.of_live hroot]
          refine List.nodup_cons.mpr ⟨fun hmem => ?_, ?_⟩
          · obtain ⟨child, hchild, hlisted⟩ := List.mem_flatMap.mp hmem
            have hle : child.number ≤ root.number := ((horder.mem_iff h).mp hlisted).2.number_le h
            have hlt : root.number < child.number := h.child_lt hchild
            omega
          · exact horder.nodup_flatMap h (h.siblings_inOrder root).nodup
              (fun child hchild => (h.parent_iff child root).mpr hchild) ih

/-- No more nodes are listed than there are. -/
theorem length_le (root : NodeId) : (order root).length ≤ tree.size := by
  have hsubset : order root ⊆ tree.nodes.keys := fun id hid =>
    (tree.nodes.mem_keys_iff id).mpr (horder.contains_of_mem h hid)
  calc (order root).length
      ≤ tree.nodes.keys.length := (List.subperm_of_subset (horder.nodup h root) hsubset).length_le
    _ = tree.size := List.length_map _

open List in
/-- What a node lists is part of what is listed for every node above it. -/
theorem sublist {root id : NodeId} (hid : id ∈ order root) : order id <+ order root := by
  induction root using h.induction_up with
  | step root ih =>
      have hroot : tree.contains root = true := ((horder.mem_iff h).mp hid).1
      by_cases heq : id = root
      · rw [heq]
      · rw [horder.of_live hroot, List.mem_cons] at hid
        obtain ⟨child, hchild, hlisted⟩ := List.mem_flatMap.mp (hid.resolve_left heq)
        calc order id
            <+ order child := ih child hchild hlisted
          _ <+ (tree.childrenOf root).flatMap order :=
            sublist_flatten_of_mem (mem_map_of_mem hchild)
          _ <+ root :: (tree.childrenOf root).flatMap order := sublist_cons_self ..
          _ = order root := (horder.of_live hroot).symm

open List in
/-- A node stands before its children, and they stand in order. -/
theorem family_sublist {parent : NodeId} (hparent : tree.contains parent = true) :
    parent :: tree.childrenOf parent <+ order parent := by
  rw [horder.of_live hparent]
  exact (horder.sublist_flatMap fun child hchild => h.contains_child hchild).cons_cons parent

end Preorder

/-! ## The loop -/

/-- The loop of a walk, which goes on until the stack is empty: the node on top is taken off, and if
it is in the tree, it is visited and its children take its place. -/
inductive Visits (tree : Tree κ) : List NodeId → List NodeId → Prop
  | done : Visits tree [] []
  | live {id : NodeId} {stack visited : List NodeId} (hid : tree.contains id = true)
      (hrest : Visits tree (tree.childrenOf id ++ stack) visited) :
      Visits tree (id :: stack) (id :: visited)
  | dead {id : NodeId} {stack visited : List NodeId} (hid : tree.contains id = false)
      (hrest : Visits tree stack visited) : Visits tree (id :: stack) visited

namespace Visits

theorem unique {stack first second : List NodeId} (hfirst : tree.Visits stack first)
    (hsecond : tree.Visits stack second) : first = second := by
  induction hfirst generalizing second with
  | done =>
      cases hsecond with
      | done => rfl
  | live hid _ ih =>
      cases hsecond with
      | live _ hrest => rw [ih hrest]
      | dead hdead _ => simp [hid] at hdead
  | dead hdead _ ih =>
      cases hsecond with
      | live hid _ => simp [hid] at hdead
      | dead _ hrest => exact ih hrest

/-- A loop that comes to an end needs one visit for each node that it lists. -/
theorem visit_eq (h : tree.Sound) {stack visited : List NodeId}
    (hvisits : tree.Visits stack visited) (hstack : ∀ id ∈ stack, tree.contains id = true)
    {fuel : Nat} (hfuel : visited.length ≤ fuel) : tree.visit fuel stack = visited := by
  induction hvisits generalizing fuel with
  | done => cases fuel <;> rfl
  | @live id stack visited hid _ ih =>
      obtain ⟨fuel, rfl⟩ : ∃ less, fuel = less + 1 :=
        Nat.exists_eq_succ_of_ne_zero (by rintro rfl; simp at hfuel)
      have hpushed : ∀ other ∈ tree.childrenOf id ++ stack, tree.contains other = true := by
        intro other hother
        rcases List.mem_append.mp hother with hchild | hrest
        · exact h.contains_child hchild
        · exact hstack other (List.mem_cons_of_mem _ hrest)
      rw [visit, if_pos hid, ih hpushed (Nat.le_of_succ_le_succ hfuel)]
  | @dead id stack visited hid _ _ =>
      have hlive := hstack id (List.mem_cons_self ..)
      rw [hid] at hlive
      cases hlive

end Visits

namespace Preorder

variable {order : NodeId → List NodeId} (horder : tree.Preorder order) (h : tree.Sound)
include horder h

/-- With a node on top of its stack, the loop lists what the recursion lists and then goes on. -/
theorem visits_cons (id : NodeId) {stack visited : List NodeId}
    (hrest : tree.Visits stack visited) : tree.Visits (id :: stack) (order id ++ visited) := by
  induction id using h.induction_up generalizing stack visited with
  | step id ih =>
      cases hid : tree.contains id with
      | false =>
          rw [horder.of_dead hid]
          exact .dead hid hrest
      | true =>
          rw [horder.of_live hid, List.cons_append]
          refine .live hid ?_
          -- the children are on top now, and each of them is worked off like the node
          generalize tree.childrenOf id = children at ih
          induction children with
          | nil => exact hrest
          | cons child children ihchildren =>
              rw [List.flatMap_cons, List.append_assoc, List.cons_append]
              exact ih child (List.mem_cons_self ..)
                (ihchildren fun other hother => ih other (List.mem_cons_of_mem _ hother))

/-- The loop comes to an end with what the recursion lists. -/
theorem visits (start : NodeId) : tree.Visits [start] (order start) := by
  have hvisits := horder.visits_cons h start .done
  rwa [List.append_nil] at hvisits

/-- The bound on the visits of a walk is never used up. -/
theorem walkFrom_eq : tree.walkFrom = order := by
  funext start
  cases hstart : tree.contains start with
  | false =>
      rw [horder.of_dead hstart, walkFrom, visit, if_neg (by simp [hstart])]
      cases tree.size <;> rfl
  | true =>
      have hlive : ∀ id ∈ [start], tree.contains id = true := by
        intro id hid
        rw [List.mem_singleton.mp hid, hstart]
      exact (horder.visits h start).visit_eq h hlive (Nat.le_succ_of_le (horder.length_le h start))

end Preorder

/-! ## The walk of a sound tree -/

namespace Sound

variable (h : tree.Sound)
include h

/-- A walk from a node lists it in the recursive order. -/
theorem preorder_walkFrom : tree.Preorder tree.walkFrom := by
  have hsubtree := preorder_subtree h
  rw [hsubtree.walkFrom_eq h]
  exact hsubtree

theorem mem_walk_iff {id : NodeId} : id ∈ tree.walk ↔ tree.contains id = true := by
  have horder := h.preorder_walkFrom
  constructor
  · intro hid
    obtain ⟨screen, -, hlisted⟩ := List.mem_flatMap.mp hid
    exact horder.contains_of_mem h hlisted
  · intro hid
    obtain ⟨screen, hscreen, hbelow⟩ := Below.exists_screen h hid
    exact List.mem_flatMap.mpr
      ⟨screen, hscreen, (horder.mem_iff h).mpr ⟨h.contains_screen hscreen, hbelow⟩⟩

theorem nodup_walk : tree.walk.Nodup := by
  have horder := h.preorder_walkFrom
  exact horder.nodup_flatMap h h.screens_inOrder.nodup
    (fun screen hscreen => ((h.mem_screens_iff screen).mp hscreen).2)
    fun screen _ => horder.nodup h screen

/-- A walk lists as many nodes as there are. -/
theorem length_walk : tree.walk.length = tree.size := by
  have hmem (id : NodeId) : id ∈ tree.walk ↔ id ∈ tree.nodes.keys := by
    rw [h.mem_walk_iff, Registry.mem_keys_iff]
    rfl
  have hperm : tree.walk.Perm tree.nodes.keys :=
    (List.perm_ext_iff_of_nodup h.nodup_walk h.nodes_latestFirst.nodup_keys).mpr hmem
  calc tree.walk.length
      = tree.nodes.keys.length := hperm.length_eq
    _ = tree.size := List.length_map _

open List in
theorem screens_sublist_walk : tree.screens <+ tree.walk :=
  h.preorder_walkFrom.sublist_flatMap fun _ hscreen => h.contains_screen hscreen

open List in
/-- A walk lists every node before its children, and these in order. -/
theorem family_sublist_walk {parent : NodeId} (hparent : tree.contains parent = true) :
    parent :: tree.childrenOf parent <+ tree.walk := by
  have horder := h.preorder_walkFrom
  obtain ⟨screen, hscreen, hlisted⟩ := mem_flatMap.mp (h.mem_walk_iff.mpr hparent)
  calc parent :: tree.childrenOf parent
      <+ tree.walkFrom parent := horder.family_sublist h hparent
    _ <+ tree.walkFrom screen := horder.sublist h hlisted
    _ <+ tree.walk := sublist_flatten_of_mem (mem_map_of_mem hscreen)

end Sound

end Storyboard.Tree
