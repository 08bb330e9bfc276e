import Mathlib.Data.List.Induction
import Storyboard.Proofs.Tree.Removal

/-!
# What a rollback takes out

A rollback removes the node of a block, then the screens declared since, the last one first.  Each
of these screens is taken off the list before it is removed, so in between the list is one short;
`remove_dropLast` shows that this makes no difference.  All in all the rollback prunes what stands
at or below the node or one of those screens, and leaves the screens that were there before
(`rollback_pruned`).
-/

namespace Storyboard.Tree

variable {κ : Type} {tree : Tree κ}

/-- Taking the last screen off the list before it is removed changes nothing. -/
theorem remove_dropLast (h : tree.Sound) {screen : NodeId} {others : List NodeId}
    (hscreens : tree.screens = others ++ [screen]) :
    { tree with screens := tree.screens.dropLast }.remove screen = tree.remove screen := by
  -- the screen would be filtered out of the list in any case
  have hfilter : tree.screens.dropLast.filter (· ≠ screen) = tree.screens.filter (· ≠ screen) := by
    simp [hscreens]
  have hdetach : { tree with screens := tree.screens.dropLast }.detach screen
      = tree.detach screen := by
    unfold detach
    rw [hfilter]
    rfl
  have hlive : tree.contains screen = true :=
    ((h.mem_screens_iff screen).mp (by simp [hscreens])).1
  have hlive' : { tree with screens := tree.screens.dropLast }.contains screen = true := hlive
  rw [remove, remove, if_pos hlive, if_pos hlive', hdetach]

theorem dropScreens_succ (h : tree.Sound) {screen : NodeId} {others : List NodeId}
    (hscreens : tree.screens = others ++ [screen]) (count : Nat) :
    tree.dropScreens (count + 1) = (tree.remove screen).dropScreens count := by
  have hlast : tree.screens.getLast? = some screen := by simp [hscreens]
  rw [dropScreens, hlast]
  exact congrArg (dropScreens · count) (remove_dropLast h hscreens)

/-- Removing the last screen leaves the others. -/
theorem screens_remove_last (h : tree.Sound) {screen : NodeId} {others : List NodeId}
    (hscreens : tree.screens = others ++ [screen]) : (tree.remove screen).screens = others := by
  have hnodup : (others ++ [screen]).Nodup := hscreens ▸ h.screens_inOrder.nodup
  have hnot : screen ∉ others := fun hmem =>
    (List.nodup_append.mp hnodup).2.2 screen hmem screen (List.mem_singleton_self _) rfl
  rw [screens_remove h.consistent, hscreens, List.filter_append, List.filter_eq_self.mpr]
  · simp
  · exact fun other hother => decide_eq_true fun heq => hnot (heq ▸ hother)

/-- Dropping screens prunes them with everything below them. -/
theorem dropScreens_pruned (kept later : List NodeId) (h : tree.Sound)
    (hscreens : tree.screens = kept ++ later) :
    Pruned tree (tree.dropScreens later.length) (tree.BelowAny later) ∧
      (tree.dropScreens later.length).screens = kept := by
  -- the screens are taken off one by one, the last one first
  induction later using List.reverseRecOn generalizing tree with
  | nil =>
      refine ⟨(Pruned.refl h).congr fun id => ?_, by simpa [dropScreens] using hscreens⟩
      simp [BelowAny]
  | append_singleton later screen ih =>
      have hlast : tree.screens = (kept ++ later) ++ [screen] := by simpa using hscreens
      obtain ⟨hpruned, hkept⟩ := ih (h.remove screen) (screens_remove_last h hlast)
      rw [List.length_append, List.length_singleton, dropScreens_succ h hlast]
      refine ⟨((remove_pruned h screen).trans hpruned).congr fun id => ?_, hkept⟩
      constructor
      · rintro ⟨root, hroot, hbelow⟩
        rcases List.mem_append.mp hroot with hlater | hscreen
        · rcases hbelow.remove_or h.consistent screen with hgone | hstill
          · exact Or.inl hgone
          · exact Or.inr ⟨root, hlater, hstill⟩
        · exact Or.inl (List.mem_singleton.mp hscreen ▸ hbelow)
      · rintro (hgone | ⟨root, hlater, hstill⟩)
        · exact ⟨screen, by simp, hgone⟩
        · exact ⟨root, List.mem_append_left _ hlater, hstill.of_remove h.consistent⟩

/-- A rollback prunes the node of the block and the screens declared since, and puts the context
back. -/
theorem rollback_pruned (h : tree.Sound) {before : Checkpoint} {id : NodeId}
    {kept later : List NodeId} (hgeneration : before.generation = tree.generation)
    (hscreens : tree.screens = kept ++ later) (hlength : kept.length = before.screens)
    (hid : id ∉ kept) :
    Pruned tree (tree.rollback before id) (tree.BelowAny (id :: later)) ∧
      (tree.rollback before id).screens = kept ∧
      (tree.rollback before id).context = before.context := by
  have hwithout : (tree.remove id).screens = kept ++ later.filter (· ≠ id) := by
    rw [screens_remove h.consistent, hscreens, List.filter_append, List.filter_eq_self.mpr]
    exact fun other hother => decide_eq_true fun heq => hid (heq ▸ hother)
  obtain ⟨hpruned, hkept⟩ := dropScreens_pruned kept _ (h.remove id) hwithout
  -- the removal may have taken one of the later screens, so what is left is counted anew
  have hcount : (tree.remove id).screens.length - before.screens
      = (later.filter (· ≠ id)).length := by
    rw [hwithout, List.length_append, ← hlength, Nat.add_sub_cancel_left]
  have hrollback : tree.rollback before id
      = { (tree.remove id).dropScreens (later.filter (· ≠ id)).length with
          context := before.context } := by
    rw [rollback, if_pos hgeneration, ← hcount]
  rw [hrollback]
  refine ⟨?_, hkept, rfl⟩
  refine (((remove_pruned h id).trans hpruned).withContext before.context).congr fun other => ?_
  -- a way down from a later screen is cut off if it comes to the removed node
  constructor
  · rintro ⟨root, hroot, hbelow⟩
    rcases List.mem_cons.mp hroot with rfl | hlater
    · exact Or.inl hbelow
    · rcases hbelow.remove_or h.consistent id with hgone | hstill
      · exact Or.inl hgone
      · by_cases heq : root = id
        · exact Or.inl (heq ▸ hbelow)
        · exact Or.inr ⟨root, List.mem_filter.mpr ⟨hlater, decide_eq_true heq⟩, hstill⟩
  · rintro (hgone | ⟨root, hlater, hstill⟩)
    · exact ⟨id, List.mem_cons_self .., hgone⟩
    · exact
        ⟨root, List.mem_cons_of_mem _ (List.mem_filter.mp hlater).1, hstill.of_remove h.consistent⟩

/-- A rollback does not count as a clearing, and the numbers it frees are not given out again. -/
theorem rollback_frame (tree : Tree κ) (before : Checkpoint) (id : NodeId) :
    (tree.rollback before id).convention = tree.convention ∧
      (tree.rollback before id).generation = tree.generation ∧
      (tree.rollback before id).next = tree.next := by
  have hdrop (tree : Tree κ) (count : Nat) :
      (tree.dropScreens count).convention = tree.convention ∧
        (tree.dropScreens count).generation = tree.generation ∧
        (tree.dropScreens count).next = tree.next := by
    induction count generalizing tree with
    | zero => exact ⟨rfl, rfl, rfl⟩
    | succ count ih =>
        rw [dropScreens]
        split
        · exact ⟨rfl, rfl, rfl⟩
        · rw [(ih _).1, (ih _).2.1, (ih _).2.2]
          exact (remove_frame _).2
  unfold rollback
  split
  · dsimp only
    rw [(hdrop _ _).1, (hdrop _ _).2.1, (hdrop _ _).2.2]
    exact (remove_frame id).2
  · exact ⟨rfl, rfl, rfl⟩

/-- Whatever is removed, what is left holds what it held. -/
theorem get?_of_get?_remove (tree : Tree κ) (id : NodeId) {other : NodeId} {node : Node κ}
    (hnode : (tree.remove id).get? other = some node) : tree.get? other = some node := by
  unfold remove at hnode
  split at hnode
  · by_cases hbelow : (tree.detach id).BelowAny [id] other
    · rw [(forgetAll_of_belowAny _ _ hbelow).1] at hnode
      cases hnode
    · rw [(forgetAll_of_not_belowAny _ _ hbelow).1] at hnode
      exact hnode
  · exact hnode

theorem get?_of_get?_rollback (tree : Tree κ) (before : Checkpoint) (id : NodeId)
    {other : NodeId} {node : Node κ} (hnode : (tree.rollback before id).get? other = some node) :
    tree.get? other = some node := by
  -- the same for any number of screens
  have hdrop (count : Nat) (tree : Tree κ)
      (hnode : (tree.dropScreens count).get? other = some node) : tree.get? other = some node := by
    induction count generalizing tree with
    | zero => exact hnode
    | succ count ih =>
        rw [dropScreens] at hnode
        split at hnode
        · exact hnode
        · have hremoved := ih _ hnode
          exact get?_of_get?_remove { tree with screens := tree.screens.dropLast } _ hremoved
  unfold rollback at hnode
  split at hnode
  · exact get?_of_get?_remove _ _ (hdrop _ _ hnode)
  · exact hnode

/-- Undoing a block adds no screens. -/
theorem screens_rollback_subset (tree : Tree κ) (before : Checkpoint) (id : NodeId) :
    (tree.rollback before id).screens ⊆ tree.screens := by
  have hremove (tree : Tree κ) (id : NodeId) : (tree.remove id).screens ⊆ tree.screens := by
    unfold remove
    split
    · rw [(forgetAll_frame (tree.detach id) [id]).1]
      exact List.filter_sublist.subset
    · exact List.Subset.refl _
  have hdrop (count : Nat) (tree : Tree κ) : (tree.dropScreens count).screens ⊆ tree.screens := by
    induction count generalizing tree with
    | zero => exact List.Subset.refl _
    | succ count ih =>
        rw [dropScreens]
        split
        · exact List.Subset.refl _
        · have hlast : tree.screens.dropLast ⊆ tree.screens := List.dropLast_subset tree.screens
          exact List.Subset.trans (ih _) (List.Subset.trans (hremove _ _) hlast)
  unfold rollback
  split
  · exact List.Subset.trans (hdrop _ _) (hremove tree id)
  · exact List.Subset.refl _

/-- A tree that has been cleared since is left as it is. -/
theorem rollback_of_cleared {before : Checkpoint}
    (hgeneration : before.generation ≠ tree.generation)
    (id : NodeId) : tree.rollback before id = tree := if_neg hgeneration

end Storyboard.Tree
