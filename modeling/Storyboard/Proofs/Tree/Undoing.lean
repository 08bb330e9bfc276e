import Storyboard.Proofs.Tree.Block

/-!
# What is left of a failed block

A checkpoint remembers the number of screens and the context, and no node.  That this is enough is
the content of `Entered.gone_iff`: after a block, what stands at or below its node or below a screen
declared inside is exactly what is new and was not attached by hand to something older.  From it
follows `Entered.restored`: the rollback leaves the old nodes where they were and, after them, what
was attached (`Restored.childrenOf_eq`).
-/

namespace Storyboard.Tree

variable {κ : Type}

/-- `after` is `before` with nothing new in it but what was attached by hand. -/
structure Restored (before : Tree κ) (attachments : List (NodeId × NodeId)) (after : Tree κ) :
    Prop extends Grown before attachments after where
  screens_eq : after.screens = before.screens
  context_restored : after.context = before.context
  contains_iff : ∀ id,
    after.contains id = true ↔ before.contains id = true ∨ Attached before attachments id

/-- The nodes that were attached to a parent, in order. -/
def attachedTo (attachments : List (NodeId × NodeId)) (parent : NodeId) : List NodeId :=
  (attachments.filter fun pair => pair.1 = parent).map Prod.snd

theorem mem_attachedTo_iff (attachments : List (NodeId × NodeId)) (parent id : NodeId) :
    id ∈ attachedTo attachments parent ↔ (parent, id) ∈ attachments := by
  unfold attachedTo
  constructor
  · intro hmem
    obtain ⟨⟨above, child⟩, hfiltered, rfl⟩ := List.mem_map.mp hmem
    obtain ⟨hpair, habove⟩ := List.mem_filter.mp hfiltered
    obtain rfl : above = parent := of_decide_eq_true habove
    exact hpair
  · intro hpair
    exact List.mem_map.mpr ⟨(parent, id), List.mem_filter.mpr ⟨hpair, by simp⟩, rfl⟩

namespace Restored

variable {before after : Tree κ} {attachments : List (NodeId × NodeId)}

/-- A node that is left, or was there before, has the children it had and then those that were
attached to it. -/
theorem childrenOf_eq (h : Restored before attachments after) (hbefore : before.Sound)
    (hafter : after.Sound) {parent : NodeId}
    (hparent : before.contains parent = true ∨ Attached before attachments parent) :
    after.childrenOf parent = before.childrenOf parent ++ attachedTo attachments parent := by
  have hold {id : NodeId} (hid : id ∈ before.childrenOf parent) : id.number < before.next := by
    have habove := (hbefore.parent_iff id parent).mpr hid
    exact hbefore.number_lt_next id (hbefore.contains_of_parent id parent habove)
  have hnew {id : NodeId} (hid : id ∈ attachedTo attachments parent) :
      before.next ≤ id.number :=
    (h.attachment_new id parent ((mem_attachedTo_iff _ _ _).mp hid)).1
  have horder : InOrder (attachedTo attachments parent) :=
    h.attachments_inOrder.sublist (List.Sublist.map _ List.filter_sublist)
  -- both sides are in order, so their members have to be compared and nothing else
  apply (hafter.siblings_inOrder parent).ext
  · apply (hbefore.siblings_inOrder parent).append horder
    intro earlier hearlier later hlater
    exact Nat.lt_of_lt_of_le (hold hearlier) (hnew hlater)
  intro id
  rw [← hafter.parent_iff, List.mem_append, ← hbefore.parent_iff, mem_attachedTo_iff]
  constructor
  · intro habove
    rcases Nat.lt_or_ge id.number before.next with hlt | hge
    · exact Or.inl (h.parent?_eq id hlt ▸ habove)
    · -- a new node that is left was attached, and it stands where it was attached
      have hlive := (h.contains_iff id).mp (hafter.contains_of_parent id parent habove)
      have hattached : Attached before attachments id := by
        refine hlive.resolve_left fun hlive => ?_
        exact absurd (hbefore.number_lt_next id hlive) (Nat.not_lt.mpr hge)
      obtain ⟨above, hpair, habove'⟩ := hattached.exists_parent
      have hplace := (h.attached id above hpair habove').2
      obtain rfl : above = parent := Option.some.inj (hplace.symm.trans habove)
      exact Or.inr hpair
  · rintro (habove | hpair)
    · have hlive := hbefore.contains_of_parent id parent habove
      exact (h.parent?_eq id (hbefore.number_lt_next id hlive)).trans habove
    · exact (h.attached id parent hpair hparent).2

/-- Nothing new is left if nothing was attached. -/
theorem contains_eq_self (h : Restored before [] after) (id : NodeId) :
    after.contains id = before.contains id := by
  rw [Bool.eq_iff_iff, h.contains_iff]
  simp [Attached.not_nil]

theorem refl {tree : Tree κ} (h : tree.Sound) : Restored tree [] tree where
  toGrown := .refl tree h
  screens_eq := rfl
  context_restored := rfl
  contains_iff id := by simp [Attached.not_nil]

/-! ## Pruning what is new -/

section Pruned

variable {left undone : Tree κ} {gone : NodeId → Prop} (hbefore : before.Oriented)
  (hgrown : Grown before attachments left) (hpruned : Pruned left undone gone)
  (hgone : ∀ id, left.contains id = true →
    (gone id ↔ before.next ≤ id.number ∧ ¬ Attached before attachments id))
include hbefore hgrown hpruned hgone

theorem contains_iff_of_pruned (id : NodeId) :
    undone.contains id = true ↔ before.contains id = true ∨ Attached before attachments id := by
  rw [hpruned.contains_iff]
  -- old nodes are not new, so they stay; the new ones stay if they were attached
  constructor
  · rintro ⟨hid, hnot⟩
    rw [hgone id hid] at hnot
    by_cases hattached : Attached before attachments id
    · exact Or.inr hattached
    · have hlt : id.number < before.next := by
        by_contra hge
        exact hnot ⟨Nat.le_of_not_lt hge, hattached⟩
      exact Or.inl (hgrown.contains_eq id hlt ▸ hid)
  · rintro (hlive | hattached)
    · have hid := hgrown.contains_of_contains hbefore.toSound hlive
      have hlt := hbefore.number_lt_next id hlive
      exact ⟨hid, fun hout => absurd hlt (Nat.not_lt.mpr ((hgone id hid).mp hout).1)⟩
    · have hid := (hgrown.parent_of_attached hattached).1
      exact ⟨hid, fun hout => ((hgone id hid).mp hout).2 hattached⟩

/-- What stays keeps its parent. -/
theorem parent?_of_stays {id : NodeId}
    (hid : before.contains id = true ∨ Attached before attachments id) :
    undone.parent? id = left.parent? id := by
  have hstays := (contains_iff_of_pruned hbefore hgrown hpruned hgone id).mpr hid
  exact hpruned.parent?_eq id ((hpruned.contains_iff id).mp hstays).2

theorem parent?_of_pruned {id : NodeId} (hlt : id.number < before.next) :
    undone.parent? id = before.parent? id := by
  cases hlive : before.contains id with
  | true =>
      have hstays := parent?_of_stays hbefore hgrown hpruned hgone (Or.inl hlive)
      rw [hstays, hgrown.parent?_eq id hlt]
  | false =>
      have hnot : ¬ undone.contains id = true := by
        rw [contains_iff_of_pruned hbefore hgrown hpruned hgone, hlive]
        rintro (hold | hattached)
        · cases hold
        · exact absurd (hgrown.number_of_attached hattached).1 (Nat.not_le.mpr hlt)
      rw [hpruned.sound.consistent.parent?_eq_none (by simpa using hnot),
        hbefore.consistent.parent?_eq_none hlive]

theorem of_pruned (hscreens : undone.screens = before.screens)
    (hcontext : undone.context = before.context) : Restored before attachments undone := by
  have hcontains := contains_iff_of_pruned hbefore hgrown hpruned hgone
  have hnext : undone.next = left.next := hpruned.next_eq
  refine ⟨⟨hnext ▸ hgrown.next_le, ?_, ?_, Or.inl hcontext, ?_, ?_, ?_,
    hgrown.attachments_inOrder⟩, hscreens, hcontext, hcontains⟩
  · intro id hlt
    rw [Bool.eq_iff_iff, hcontains, or_iff_left]
    intro hattached
    exact absurd (hgrown.number_of_attached hattached).1 (Nat.not_le.mpr hlt)
  · intro id hlt
    exact parent?_of_pruned hbefore hgrown hpruned hgone hlt
  · -- nothing is left that is new and was not attached
    intro id parent hnew hnot habove
    have hid := (hcontains id).mp (hpruned.sound.contains_of_parent id parent habove)
    have hlive := hid.resolve_right hnot
    exact absurd (hbefore.number_lt_next id hlive) (Nat.not_lt.mpr hnew)
  · intro id parent hpair hfrom
    have hattached : Attached before attachments id := .of_parent hpair hfrom
    have hstays := parent?_of_stays hbefore hgrown hpruned hgone (Or.inr hattached)
    exact ⟨(hcontains id).mpr (Or.inr hattached),
      hstays.trans (hgrown.attached id parent hpair hfrom).2⟩
  · intro id parent hpair
    rw [hnext]
    exact hgrown.attachment_new id parent hpair

end Pruned

/-- The context points into what is left as it pointed into what was there before. -/
theorem oriented (h : Restored before attachments after) (hbefore : before.Oriented)
    (hafter : after.Sound) : after.Oriented where
  toSound := hafter
  screen_eq := by rw [h.context_restored, h.screens_eq, hbefore.screen_eq]
  linked := by
    rw [h.context_restored]
    refine hbefore.linked.congr fun container hcontainer => ?_
    have hlive := hbefore.contains_container hcontainer
    exact h.parent?_eq container (hbefore.number_lt_next container hlive)

end Restored

namespace Entered

variable {before entered after : Tree κ} {scope : Scope} {attachments : List (NodeId × NodeId)}

section Gone

variable (h : Entered before scope entered) (hbefore : before.Oriented)
  (hrun : Grown entered attachments after) (hafter : (after.leave scope).Sound)
include h hbefore hrun hafter

/-- Everything below something new that was not attached is new and was not attached either. -/
theorem new_of_below {root id : NodeId} (hbelow : (after.leave scope).Below root id)
    (hroot : before.next ≤ root.number ∧ ¬ Attached before attachments root) :
    before.next ≤ id.number ∧ ¬ Attached before attachments id := by
  have hgrown := h.grown hbefore hrun
  induction hbelow with
  | self => exact hroot
  | @child root child id hchild _ ih =>
      have habove := (hafter.parent_iff child root).mpr hchild
      have hlt : root.number < child.number := hafter.parent_lt child root habove
      refine ih ⟨by omega, fun hattached => ?_⟩
      obtain ⟨-, above, hplace, hfrom⟩ := hgrown.parent_of_attached hattached
      obtain rfl : above = root := Option.some.inj (hplace.symm.trans habove)
      rcases hfrom with hlive | hagain
      · exact absurd (hbefore.number_lt_next above hlive) (Nat.not_lt.mpr hroot.1)
      · exact hroot.2 hagain

/-- What a rollback takes out: all that is new but what was attached by hand. -/
theorem gone_iff {later : List NodeId} (hscreens : after.screens = before.screens ++ later)
    (hlater : ∀ screen ∈ later, before.next ≤ screen.number) {id : NodeId}
    (hid : (after.leave scope).contains id = true) :
    (after.leave scope).BelowAny (before.fresh :: later) id ↔
      before.next ≤ id.number ∧ ¬ Attached before attachments id := by
  have hgrown := h.grown hbefore hrun
  constructor
  · rintro ⟨root, hroot, hbelow⟩
    apply h.new_of_below hbefore hrun hafter hbelow
    rcases List.mem_cons.mp hroot with rfl | hscreen
    · exact ⟨Nat.le_refl _, h.not_attached_fresh hrun⟩
    · -- a screen was not attached, since it has no parent
      refine ⟨hlater root hscreen, fun hattached => ?_⟩
      obtain ⟨-, above, habove, -⟩ := hgrown.parent_of_attached hattached
      have hmem : root ∈ (after.leave scope).screens := by
        change root ∈ after.screens
        rw [hscreens]
        exact List.mem_append_right _ hscreen
      have horphan := ((hafter.mem_screens_iff root).mp hmem).2
      rw [habove] at horphan
      cases horphan
  · -- going up from the node, every parent is new and not attached until one of the roots is met
    induction hnumber : id.number using Nat.strong_induction_on generalizing id with
    | _ number ih =>
        rintro ⟨hnew, hnot⟩
        by_cases hfresh : id = before.fresh
        · exact ⟨before.fresh, List.mem_cons_self .., hfresh ▸ .self _⟩
        cases hparent : (after.leave scope).parent? id with
        | none =>
            have hmem : id ∈ before.screens ++ later := by
              rw [← hscreens]
              exact (hafter.mem_screens_iff id).mpr ⟨hid, hparent⟩
            rcases List.mem_append.mp hmem with hold | hscreen
            · have hlive := ((hbefore.mem_screens_iff id).mp hold).1
              have hlt := hbefore.number_lt_next id hlive
              omega
            · exact ⟨id, List.mem_cons_of_mem _ hscreen, .self id⟩
        | some parent =>
            have hplaced := h.placed_inside hrun (hnumber ▸ hnew) hfresh hnot hparent
            have hlt : parent.number < number := hnumber ▸ hafter.parent_lt id parent hparent
            obtain ⟨root, hroot, hbelow⟩ :=
              ih parent.number hlt (hafter.consistent.contains_parent hparent) rfl hplaced
            exact ⟨root, hroot, hbelow.of_parent hafter.consistent hparent⟩

end Gone

section Undo

variable (h : Entered before scope entered) (hbefore : before.Oriented) (hafter : after.Oriented)
include h hbefore hafter

/-- The screens declared inside a block stand after the others. -/
theorem screens_eq (hrun : Grown entered attachments after) :
    ∃ later, after.screens = before.screens ++ later ∧
      ∀ screen ∈ later, before.next ≤ screen.number := by
  have hlt (screen : NodeId) (hscreen : screen ∈ before.screens) : screen.number < before.next :=
    hbefore.number_lt_next screen ((hbefore.mem_screens_iff screen).mp hscreen).1
  -- among the old nodes the screens are the same, since their parents are
  have hmem (screen : NodeId) (hscreen : screen.number < before.next) :
      screen ∈ after.screens ↔ screen ∈ before.screens := by
    rw [hafter.mem_screens_iff, hbefore.mem_screens_iff, h.contains_old hrun hscreen,
      h.parent?_old hrun hscreen]
  have heq := hafter.screens_inOrder.eq_append_filter hbefore.screens_inOrder hlt hmem
  exact ⟨_, heq, fun screen hscreen => of_decide_eq_true (List.mem_filter.mp hscreen).2⟩

/-- A block that failed without a reset leaves the tree as it was, but for what was attached. -/
theorem restored (hrun : Grown entered attachments after)
    (hgeneration : after.generation = entered.generation) :
    Restored before attachments
        ((after.leave scope).rollback before.checkpoint before.fresh) ∧
      ((after.leave scope).rollback before.checkpoint before.fresh).Oriented := by
  have hleft := (h.oriented_leave hbefore (Or.inl ⟨hgeneration, hrun⟩) hafter).toSound
  obtain ⟨later, hscreens, hlater⟩ := h.screens_eq hbefore hafter hrun
  -- the node of the block is new, so it is none of the old screens
  have hnot : before.fresh ∉ before.screens := by
    intro hmem
    have hlive := ((hbefore.mem_screens_iff _).mp hmem).1
    rw [hbefore.contains_fresh] at hlive
    cases hlive
  have hcheck : before.checkpoint.generation = (after.leave scope).generation :=
    (hgeneration.trans h.generation_eq).symm
  obtain ⟨hpruned, hkept, hcontext⟩ := rollback_pruned hleft hcheck hscreens rfl hnot
  have hgone (id : NodeId) (hid : (after.leave scope).contains id = true) :=
    h.gone_iff hbefore hrun hleft hscreens hlater hid
  have hrestored := Restored.of_pruned hbefore (h.grown hbefore hrun) hpruned hgone hkept hcontext
  exact ⟨hrestored, hrestored.oriented hbefore hpruned.sound⟩

/-- A failed block leaves a tree that has grown or was cleared, like any other block. -/
theorem undone (hrun : Since entered attachments after) :
    Since before attachments ((after.leave scope).rollback before.checkpoint before.fresh) ∧
      ((after.leave scope).rollback before.checkpoint before.fresh).Oriented := by
  -- after a clearing the rollback does nothing, and the block counts as cleared
  rcases hrun with ⟨hgeneration, hgrown⟩ | hcleared
  · obtain ⟨hrestored, horiented⟩ := h.restored hbefore hafter hgrown hgeneration
    have hkept : ((after.leave scope).rollback before.checkpoint before.fresh).generation
        = before.generation := by
      rw [(rollback_frame _ _ _).2.1]
      exact hgeneration.trans h.generation_eq
    exact ⟨Or.inl ⟨hkept, hrestored.toGrown⟩, horiented⟩
  · have hlt := hcleared.generation_lt
    rw [h.generation_eq] at hlt
    have hcheck : before.checkpoint.generation ≠ (after.leave scope).generation :=
      Nat.ne_of_lt hlt
    have hsince : Since entered attachments after := Or.inr hcleared
    rw [rollback_of_cleared hcheck]
    exact ⟨h.since hbefore hsince hafter, h.oriented_leave hbefore hsince hafter⟩

end Undo

end Entered

end Storyboard.Tree
