import Storyboard.Proofs.Tree.Preorder
import Storyboard.Tree.Outline

/-!
# The outline of a tree as a walk

The outline is written by a recursion of its own, which goes down at most as many levels as there
are nodes and counts on the way how deep it is.  Neither is needed to say what it writes: there is a
line for every node of a walk (`Sound.outline_eq`), indented for each of the nodes above it
(`mem_ancestorsOf_iff`).
-/

namespace Storyboard.Tree

variable {κ : Type} {tree : Tree κ}

/-! ## The nodes above a node -/

/-- The nodes above a node, the nearest first, climbing at most `levels` levels. -/
def climb (tree : Tree κ) : Nat → NodeId → List NodeId
  | 0, _ => []
  | levels + 1, id =>
      match tree.parent? id with
      | none => []
      | some parent => parent :: tree.climb levels parent

/-- The nodes above a node, the nearest first.  Numbers fall on the way up. -/
def ancestorsOf (tree : Tree κ) (id : NodeId) : List NodeId := tree.climb id.number id

theorem climb_of_root {id : NodeId} (hparent : tree.parent? id = none) (levels : Nat) :
    tree.climb levels id = [] := by
  cases levels with
  | zero => rfl
  | succ levels => simp [climb, hparent]

/-- Levels that are left over on the way up do not matter. -/
theorem climb_eq_ancestorsOf (h : tree.Sound) {levels : Nat} {id : NodeId}
    (hlevels : id.number ≤ levels) : tree.climb levels id = tree.ancestorsOf id := by
  induction levels using Nat.strong_induction_on generalizing id with
  | _ levels ih =>
      rw [ancestorsOf]
      cases hparent : tree.parent? id with
      | none => rw [climb_of_root hparent, climb_of_root hparent]
      | some parent =>
          have hlt : parent.number < id.number := h.parent_lt id parent hparent
          obtain ⟨more, hmore⟩ : ∃ more, levels = more + 1 :=
            Nat.exists_eq_succ_of_ne_zero (by omega)
          obtain ⟨own, hown⟩ : ∃ own, id.number = own + 1 :=
            Nat.exists_eq_succ_of_ne_zero (by omega)
          rw [hmore, hown]
          simp only [climb, hparent]
          rw [ih more (by omega) (by omega), ih own (by omega) (by omega)]

theorem ancestorsOf_of_root {id : NodeId} (hparent : tree.parent? id = none) :
    tree.ancestorsOf id = [] :=
  climb_of_root hparent _

theorem ancestorsOf_of_parent (h : tree.Sound) {id parent : NodeId}
    (hparent : tree.parent? id = some parent) :
    tree.ancestorsOf id = parent :: tree.ancestorsOf parent := by
  have hlt : parent.number < id.number := h.parent_lt id parent hparent
  obtain ⟨levels, hlevels⟩ : ∃ levels, id.number = levels + 1 :=
    Nat.exists_eq_succ_of_ne_zero (by omega)
  rw [ancestorsOf, hlevels, climb, hparent]
  exact congrArg (parent :: ·) (climb_eq_ancestorsOf h (by omega))

/-- The nodes above a node are those that it stands below, other than itself. -/
theorem mem_ancestorsOf_iff (h : tree.Sound) {id other : NodeId} :
    other ∈ tree.ancestorsOf id ↔ other ≠ id ∧ tree.Below other id := by
  induction hnumber : id.number using Nat.strong_induction_on generalizing id with
  | _ number ih =>
      cases hparent : tree.parent? id with
      | none =>
          rw [ancestorsOf_of_root hparent]
          refine ⟨fun hmem => by simp at hmem, fun ⟨hne, hbelow⟩ => ?_⟩
          obtain ⟨parent, habove, -⟩ := hbelow.parent h.consistent hne.symm
          rw [hparent] at habove
          cases habove
      | some parent =>
          have hlt : parent.number < id.number := h.parent_lt id parent hparent
          rw [ancestorsOf_of_parent h hparent, List.mem_cons, ih _ (hnumber ▸ hlt) rfl]
          constructor
          · intro hmem
            have habove : tree.Below other parent := by
              rcases hmem with rfl | ⟨-, habove⟩
              · exact .self _
              · exact habove
            have hle : other.number ≤ parent.number := habove.number_le h
            refine ⟨fun heq => ?_, habove.of_parent h.consistent hparent⟩
            rw [heq] at hle
            omega
          · rintro ⟨hne, hbelow⟩
            obtain ⟨above, habove, hunder⟩ := hbelow.parent h.consistent hne.symm
            obtain rfl : above = parent := Option.some.inj (habove.symm.trans hparent)
            exact or_iff_not_imp_left.mpr fun hother => ⟨hother, hunder⟩

theorem nodup_ancestorsOf (h : tree.Sound) (id : NodeId) : (tree.ancestorsOf id).Nodup := by
  induction hnumber : id.number using Nat.strong_induction_on generalizing id with
  | _ number ih =>
      cases hparent : tree.parent? id with
      | none => simp [ancestorsOf_of_root hparent]
      | some parent =>
          have hlt : parent.number < id.number := h.parent_lt id parent hparent
          rw [ancestorsOf_of_parent h hparent]
          exact List.nodup_cons.mpr
            ⟨fun hmem => ((mem_ancestorsOf_iff h).mp hmem).1 rfl, ih _ (hnumber ▸ hlt) parent rfl⟩

/-! ## The lines -/

/-- The line of a node, indented for each node above it. -/
def lineOf (tree : Tree κ) (id : NodeId) : String :=
  match tree.get? id with
  | none => ""
  | some node => indented (tree.ancestorsOf id).length node

namespace Preorder

variable {order : NodeId → List NodeId} (horder : tree.Preorder order) (h : tree.Sound)
include horder h

/-- The recursion writes the lines of what is listed for a node, if it starts with the depth of that
node and is not stopped before it has come to all of them. -/
theorem outlineLines_eq {levels depth : Nat} {id : NodeId} (hlevels : (order id).length ≤ levels)
    (hdepth : depth = (tree.ancestorsOf id).length) :
    tree.outlineLines levels depth id = (order id).map tree.lineOf := by
  induction levels generalizing depth id with
  | zero =>
      rw [List.length_eq_zero_iff.mp (Nat.le_zero.mp hlevels)]
      rfl
  | succ levels ih =>
      rw [outlineLines]
      cases hget : tree.get? id with
      | none =>
          rw [horder.of_dead ((tree.get?_eq_none_iff id).mp hget)]
          rfl
      | some node =>
          have hid : tree.contains id = true := Registry.contains_of_get? hget
          have hline : tree.lineOf id = indented depth node := by
            rw [lineOf, hget, hdepth]
          rw [horder.of_live hid, List.length_cons, Nat.succ_le_succ_iff] at hlevels
          rw [horder.of_live hid, List.map_cons, hline, List.map_flatMap]
          refine congrArg (indented depth node :: ·)
            (List.flatMap_congr fun child hchild => ih ?_ ?_)
          · have hsublist := List.sublist_flatten_of_mem (List.mem_map_of_mem (f := order) hchild)
            exact hsublist.length_le.trans hlevels
          · have hparent : tree.parent? child = some id := (h.parent_iff child id).mpr hchild
            rw [ancestorsOf_of_parent h hparent, List.length_cons, hdepth]

end Preorder

/-- The outline is the lines of a walk. -/
theorem Sound.outline_eq (h : tree.Sound) :
    tree.outline = "\n".intercalate (tree.walk.map tree.lineOf) := by
  have horder := h.preorder_walkFrom
  rw [outline, walk, List.map_flatMap]
  congr 1
  refine List.flatMap_congr fun screen hscreen => ?_
  have hroot : tree.parent? screen = none := ((h.mem_screens_iff screen).mp hscreen).2
  exact horder.outlineLines_eq h (horder.length_le h screen)
    (by rw [ancestorsOf_of_root hroot]; rfl)

end Storyboard.Tree
