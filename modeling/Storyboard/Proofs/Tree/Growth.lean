import Storyboard.Proofs.Tree.Oriented

/-!
# How a tree grows while a program runs

A program has grown a tree if nothing that was there has moved.  `Grown` says more than that: it
says where the new nodes are.  A new node is a screen, or it stands where the context pointed
before, or it stands below another new node, unless it was attached by hand below a node that was
there already (`Attached`).  The context is the one before, or it points at a new screen on which no
container is open.

The relation is transitive (`Grown.trans`), so what single calls do can be put together.  If the
tree is cleared on the way, `Cleared` holds in its place, and `Since` is the one or the other.
-/

namespace Storyboard.Tree

variable {κ : Type}

/-- The node was attached by hand below a node of the tree, directly or by way of others that were.
The attachments are pairs of a parent and a child. -/
inductive Attached (before : Tree κ) (attachments : List (NodeId × NodeId)) : NodeId → Prop
  | under {parent id : NodeId} (hpair : (parent, id) ∈ attachments)
      (hparent : before.contains parent = true) : Attached before attachments id
  | further {parent id : NodeId} (hpair : (parent, id) ∈ attachments)
      (hparent : Attached before attachments parent) : Attached before attachments id

namespace Attached

variable {before : Tree κ} {attachments : List (NodeId × NodeId)} {id : NodeId}

theorem mono {other : Tree κ} {more : List (NodeId × NodeId)}
    (h : Attached before attachments id)
    (hcontains : ∀ id, before.contains id = true → other.contains id = true)
    (hsubset : attachments ⊆ more) : Attached other more id := by
  induction h with
  | under hpair hparent => exact .under (hsubset hpair) (hcontains _ hparent)
  | further hpair _ ih => exact .further (hsubset hpair) ih

theorem exists_parent (h : Attached before attachments id) :
    ∃ parent, (parent, id) ∈ attachments ∧
      (before.contains parent = true ∨ Attached before attachments parent) := by
  cases h with
  | under hpair hparent => exact ⟨_, hpair, Or.inl hparent⟩
  | further hpair hparent => exact ⟨_, hpair, Or.inr hparent⟩

theorem of_parent {parent : NodeId} (hpair : (parent, id) ∈ attachments)
    (hparent : before.contains parent = true ∨ Attached before attachments parent) :
    Attached before attachments id :=
  hparent.elim (.under hpair) (.further hpair)

theorem not_nil : ¬ Attached before [] id := by
  rintro (⟨hpair, -⟩ | ⟨hpair, -⟩) <;> simp at hpair

end Attached

/-- `after` is `before` with new nodes, of which `attachments` were attached by hand. -/
structure Grown (before : Tree κ) (attachments : List (NodeId × NodeId)) (after : Tree κ) :
    Prop where
  next_le : before.next ≤ after.next
  contains_eq : ∀ id, id.number < before.next → after.contains id = before.contains id
  parent?_eq : ∀ id, id.number < before.next → after.parent? id = before.parent? id
  context_eq : after.context = before.context ∨
    ∃ screen : NodeId, before.next ≤ screen.number ∧ after.context = { screen := some screen }
  /-- What is new and not attached stands where the context pointed, or below something like it. -/
  placed : ∀ id parent, before.next ≤ id.number → ¬ Attached before attachments id →
    after.parent? id = some parent →
    before.context.target? = some parent ∨
      (before.next ≤ parent.number ∧ ¬ Attached before attachments parent)
  attached : ∀ id parent, (parent, id) ∈ attachments →
    (before.contains parent = true ∨ Attached before attachments parent) →
    after.contains id = true ∧ after.parent? id = some parent
  attachment_new : ∀ id parent, (parent, id) ∈ attachments →
    before.next ≤ id.number ∧ id.number < after.next ∧ parent.number < id.number
  attachments_inOrder : InOrder (attachments.map Prod.snd)

namespace Grown

variable {before middle after : Tree κ} {attachments more : List (NodeId × NodeId)}

/-! ## Attached nodes -/

theorem number_of_attached (h : Grown before attachments after) {id : NodeId}
    (hid : Attached before attachments id) : before.next ≤ id.number ∧ id.number < after.next := by
  obtain ⟨parent, hpair, -⟩ := hid.exists_parent
  obtain ⟨hle, hlt, -⟩ := h.attachment_new id parent hpair
  exact ⟨hle, hlt⟩

theorem parent_of_attached (h : Grown before attachments after) {id : NodeId}
    (hid : Attached before attachments id) :
    after.contains id = true ∧ ∃ parent, after.parent? id = some parent ∧
      (before.contains parent = true ∨ Attached before attachments parent) := by
  obtain ⟨parent, hpair, hparent⟩ := hid.exists_parent
  obtain ⟨hlive, habove⟩ := h.attached id parent hpair hparent
  exact ⟨hlive, parent, habove, hparent⟩

theorem contains_of_contains (h : Grown before attachments after) (hsound : before.Sound)
    {id : NodeId} (hid : before.contains id = true) : after.contains id = true :=
  (h.contains_eq id (hsound.number_lt_next id hid)).trans hid

/-- Of the nodes that are attached in two stretches, the older ones were in the first. -/
theorem attached_of_lt (hfirst : Grown before attachments middle)
    (hsecond : Grown middle more after) {id : NodeId}
    (hid : Attached before (attachments ++ more) id) (hlt : id.number < middle.next) :
    Attached before attachments id := by
  -- the later attachments made nodes that are newer than all of these
  have hpair {parent id : NodeId} (hmem : (parent, id) ∈ attachments ++ more)
      (hlt : id.number < middle.next) : (parent, id) ∈ attachments := by
    refine (List.mem_append.mp hmem).resolve_right fun hmore => ?_
    exact absurd hlt (Nat.not_lt.mpr (hsecond.attachment_new id parent hmore).1)
  induction hid with
  | under hmem hparent => exact .under (hpair hmem hlt) hparent
  | further hmem _ ih =>
      have hold := hpair hmem hlt
      exact .further hold (ih (Nat.lt_trans (hfirst.attachment_new _ _ hold).2.2 hlt))

/-- The newer ones were attached to what was there in between. -/
theorem attached_of_le (hfirst : Grown before attachments middle)
    (hsecond : Grown middle more after) (hsound : before.Sound) {id : NodeId}
    (hid : Attached before (attachments ++ more) id) (hle : middle.next ≤ id.number) :
    Attached middle more id := by
  -- the earlier attachments made nodes that are older than all of these
  have hpair {parent id : NodeId} (hmem : (parent, id) ∈ attachments ++ more)
      (hle : middle.next ≤ id.number) : (parent, id) ∈ more := by
    refine (List.mem_append.mp hmem).resolve_left fun hold => ?_
    exact absurd hle (Nat.not_le.mpr (hfirst.attachment_new id parent hold).2.1)
  induction hid with
  | under hmem hparent =>
      exact .under (hpair hmem hle) (hfirst.contains_of_contains hsound hparent)
  | @further parent id hmem hparent ih =>
      rcases Nat.lt_or_ge parent.number middle.next with hlt | hge
      · have hold := hfirst.attached_of_lt hsecond hparent hlt
        exact .under (hpair hmem hle) (hfirst.parent_of_attached hold).1
      · exact .further (hpair hmem hle) (ih hge)

/-! ## Putting stretches together -/

theorem refl (tree : Tree κ) (hsound : tree.Sound) : Grown tree [] tree where
  next_le := Nat.le_refl _
  contains_eq _ _ := rfl
  parent?_eq _ _ := rfl
  context_eq := Or.inl rfl
  placed id parent hid _ hparent := by
    have hlive := hsound.contains_of_parent id parent hparent
    exact absurd (hsound.number_lt_next id hlive) (Nat.not_lt.mpr hid)
  attached _ _ hpair := by simp at hpair
  attachment_new _ _ hpair := by simp at hpair
  attachments_inOrder := List.Pairwise.nil

theorem placed_trans (hfirst : Grown before attachments middle)
    (hsecond : Grown middle more after) (hbefore : before.Sound) (hmiddle : middle.Oriented)
    {id parent : NodeId} (hid : before.next ≤ id.number)
    (hnot : ¬ Attached before (attachments ++ more) id)
    (hparent : after.parent? id = some parent) :
    before.context.target? = some parent ∨
      (before.next ≤ parent.number ∧ ¬ Attached before (attachments ++ more) parent) := by
  have hleft {id : NodeId} (hold : Attached before attachments id) :
      Attached before (attachments ++ more) id :=
    hold.mono (fun _ hlive => hlive) (List.subset_append_left _ _)
  -- nodes of the first stretch keep their place in the second
  rcases Nat.lt_or_ge id.number middle.next with hlt | hge
  · rw [hsecond.parent?_eq id hlt] at hparent
    refine (hfirst.placed id parent hid (mt hleft hnot) hparent).imp_right fun hplaced => ?_
    refine ⟨hplaced.1, fun hattached => hplaced.2 (hfirst.attached_of_lt hsecond hattached ?_)⟩
    exact Nat.lt_trans (hmiddle.parent_lt id parent hparent) hlt
  · by_cases hnew : Attached middle more id
    · -- an attached node whose parent was neither there at first nor attached itself
      obtain ⟨above, hpair, habove⟩ := hnew.exists_parent
      have hattached := (hsecond.attached id above hpair habove).2
      obtain rfl : above = parent := Option.some.inj (hattached.symm.trans hparent)
      have hpair' : (above, id) ∈ attachments ++ more := List.mem_append_right _ hpair
      refine Or.inr ⟨?_, fun hold => hnot (.further hpair' hold)⟩
      by_contra hold
      rcases habove with hlive | hlater
      · rw [hfirst.contains_eq above (Nat.lt_of_not_le hold)] at hlive
        exact hnot (.under hpair' hlive)
      · exact hold (Nat.le_trans hfirst.next_le (hsecond.number_of_attached hlater).1)
    · rcases hsecond.placed id parent hge hnew hparent with htarget | ⟨hnumber, hfree⟩
      · rcases hfirst.context_eq with hsame | ⟨screen, hscreen, hcontext⟩
        · exact Or.inl (hsame ▸ htarget)
        · have hcurrent : middle.context.screen = some screen := by rw [hcontext]
          obtain rfl : screen = parent := by
            rw [hcontext] at htarget
            exact Option.some.inj htarget
          refine Or.inr ⟨hscreen, fun hattached => ?_⟩
          have hlt : screen.number < middle.next :=
            hmiddle.number_lt_next screen (hmiddle.contains_screen hcurrent)
          obtain ⟨-, above, habove, -⟩ :=
            hfirst.parent_of_attached (hfirst.attached_of_lt hsecond hattached hlt)
          simp [hmiddle.parent?_screen hcurrent] at habove
      · refine Or.inr ⟨Nat.le_trans hfirst.next_le hnumber, fun hattached => hfree ?_⟩
        exact hfirst.attached_of_le hsecond hbefore hattached hnumber

/-- Two stretches of growth make one. -/
theorem trans (hfirst : Grown before attachments middle) (hsecond : Grown middle more after)
    (hbefore : before.Sound) (hmiddle : middle.Oriented) :
    Grown before (attachments ++ more) after where
  next_le := Nat.le_trans hfirst.next_le hsecond.next_le
  contains_eq id hid := by
    rw [hsecond.contains_eq id (Nat.lt_of_lt_of_le hid hfirst.next_le), hfirst.contains_eq id hid]
  parent?_eq id hid := by
    rw [hsecond.parent?_eq id (Nat.lt_of_lt_of_le hid hfirst.next_le), hfirst.parent?_eq id hid]
  context_eq := by
    rcases hsecond.context_eq with hsame | ⟨screen, hscreen, hcontext⟩
    · rw [hsame]
      exact hfirst.context_eq
    · exact Or.inr ⟨screen, Nat.le_trans hfirst.next_le hscreen, hcontext⟩
  placed id parent hid hnot hparent :=
    hfirst.placed_trans hsecond hbefore hmiddle hid hnot hparent
  attached id parent hpair hparent := by
    rcases List.mem_append.mp hpair with hold | hnew
    · obtain ⟨-, hlt, hbelow⟩ := hfirst.attachment_new id parent hold
      have hparent' := hparent.imp_right fun hattached =>
        hfirst.attached_of_lt hsecond hattached (Nat.lt_trans hbelow hlt)
      rw [hsecond.contains_eq id hlt, hsecond.parent?_eq id hlt]
      exact hfirst.attached id parent hold hparent'
    · refine hsecond.attached id parent hnew ?_
      rcases hparent with hlive | hattached
      · exact Or.inl (hfirst.contains_of_contains hbefore hlive)
      · rcases Nat.lt_or_ge parent.number middle.next with hlt | hge
        · have hold := hfirst.attached_of_lt hsecond hattached hlt
          exact Or.inl (hfirst.parent_of_attached hold).1
        · exact Or.inr (hfirst.attached_of_le hsecond hbefore hattached hge)
  attachment_new id parent hpair := by
    rcases List.mem_append.mp hpair with hold | hnew
    · obtain ⟨hle, hlt, hbelow⟩ := hfirst.attachment_new id parent hold
      exact ⟨hle, Nat.lt_of_lt_of_le hlt hsecond.next_le, hbelow⟩
    · obtain ⟨hle, hlt, hbelow⟩ := hsecond.attachment_new id parent hnew
      exact ⟨Nat.le_trans hfirst.next_le hle, hlt, hbelow⟩
  attachments_inOrder := by
    rw [List.map_append]
    refine hfirst.attachments_inOrder.append hsecond.attachments_inOrder ?_
    intro earlier hearlier later hlater
    obtain ⟨⟨above, id⟩, hold, rfl⟩ := List.mem_map.mp hearlier
    obtain ⟨⟨above', id'⟩, hnew, rfl⟩ := List.mem_map.mp hlater
    exact Nat.lt_of_lt_of_le (hfirst.attachment_new id above hold).2.1
      (hsecond.attachment_new id' above' hnew).1

/-! ## Single steps -/

/-- What the nodes hold does not matter. -/
theorem reshape {reshaped : Tree κ} (h : Grown before attachments after)
    (hshape : SameShape after reshaped) : Grown before attachments reshaped := by
  constructor
  case next_le => exact hshape.next_eq ▸ h.next_le
  case contains_eq =>
    intro id hid
    rw [hshape.contains, h.contains_eq id hid]
  case parent?_eq =>
    intro id hid
    rw [hshape.parent?, h.parent?_eq id hid]
  case context_eq =>
    rw [hshape.context_eq]
    exact h.context_eq
  case placed =>
    intro id parent
    rw [hshape.parent?]
    exact h.placed id parent
  case attached =>
    intro id parent
    rw [hshape.contains, hshape.parent?]
    exact h.attached id parent
  case attachment_new =>
    rw [hshape.next_eq]
    exact h.attachment_new
  case attachments_inOrder => exact h.attachments_inOrder

/-- A new screen stands nowhere and becomes the current one. -/
theorem withScreen (hsound : before.Sound) (node : Node κ) :
    Grown before [] (before.withScreen node) where
  next_le := Nat.le_succ _
  contains_eq id hid := by simp [contains_withScreen, ne_fresh before hid]
  parent?_eq _ _ := rfl
  context_eq := Or.inr ⟨before.fresh, Nat.le_refl _, rfl⟩
  placed id parent hid _ hparent := by
    have hlive := hsound.contains_of_parent id parent hparent
    exact absurd (hsound.number_lt_next id hlive) (Nat.not_lt.mpr hid)
  attached _ _ hpair := by simp at hpair
  attachment_new _ _ hpair := by simp at hpair
  attachments_inOrder := List.Pairwise.nil

section InsertChild

variable (hsound : before.Sound) {parent : NodeId} (node : Node κ)
include hsound

/-- The one new node is the child. -/
theorem eq_of_insertChild {id above : NodeId} (hid : before.next ≤ id.number)
    (habove : (before.insertChild parent node).2.parent? id = some above) :
    id = before.fresh ∧ above = parent := by
  rw [parent?_insertChild] at habove
  split at habove
  case isTrue hnew => exact ⟨hnew, (Option.some.inj habove).symm⟩
  case isFalse =>
    have hlive := hsound.contains_of_parent id above habove
    exact absurd (hsound.number_lt_next id hlive) (Nat.not_lt.mpr hid)

/-- A widget that is declared stands where the context points. -/
theorem insertChild (htarget : before.context.target? = some parent) :
    Grown before [] (before.insertChild parent node).2 where
  next_le := Nat.le_succ _
  contains_eq id hid := by simp [contains_insertChild, ne_fresh before hid]
  parent?_eq id hid := by simp [parent?_insertChild, ne_fresh before hid]
  context_eq := Or.inl rfl
  placed id above hid _ habove := by
    obtain ⟨-, rfl⟩ := eq_of_insertChild hsound node hid habove
    exact Or.inl htarget
  attached _ _ hpair := by simp at hpair
  attachment_new _ _ hpair := by simp at hpair
  attachments_inOrder := List.Pairwise.nil

/-- A widget that is attached by hand stands where it was attached. -/
theorem attachChild (hparent : before.contains parent = true) :
    Grown before [(parent, before.fresh)] (before.insertChild parent node).2 where
  next_le := Nat.le_succ _
  contains_eq id hid := by simp [contains_insertChild, ne_fresh before hid]
  parent?_eq id hid := by simp [parent?_insertChild, ne_fresh before hid]
  context_eq := Or.inl rfl
  placed id above hid hnot habove := by
    obtain ⟨rfl, -⟩ := eq_of_insertChild hsound node hid habove
    exact absurd (.under (List.mem_singleton_self _) hparent) hnot
  attached id above hpair _ := by
    obtain ⟨rfl, rfl⟩ := Prod.mk.inj (List.mem_singleton.mp hpair)
    simp [contains_insertChild, parent?_insertChild]
  attachment_new id above hpair := by
    obtain ⟨rfl, rfl⟩ := Prod.mk.inj (List.mem_singleton.mp hpair)
    exact ⟨Nat.le_refl _, Nat.lt_succ_self _, hsound.number_lt_next above hparent⟩
  attachments_inOrder := List.pairwise_singleton _ _

end InsertChild

end Grown

/-! ## Clearing on the way -/

/-- `after` has nothing left of `before`: every node is new, and so is the current screen, on which
no container is open. -/
structure Cleared (before after : Tree κ) : Prop where
  next_le : before.next ≤ after.next
  generation_lt : before.generation < after.generation
  number_ge : ∀ id, after.contains id = true → before.next ≤ id.number
  containers_eq : after.context.containers = []

/-- `after` comes from `before`, by growth or with a clearing in between. -/
def Since (before : Tree κ) (attachments : List (NodeId × NodeId)) (after : Tree κ) : Prop :=
  (after.generation = before.generation ∧ Grown before attachments after) ∨ Cleared before after

theorem Cleared.clear (tree : Tree κ) : Cleared tree tree.clear where
  next_le := Nat.le_refl _
  generation_lt := Nat.lt_succ_self _
  number_ge id hid := by
    simp [Tree.clear, contains, Registry.contains, Registry.get?, Registry.empty] at hid
  containers_eq := rfl

namespace Since

variable {before middle after : Tree κ} {attachments more : List (NodeId × NodeId)}

theorem refl {tree : Tree κ} (hsound : tree.Sound) : Since tree [] tree :=
  Or.inl ⟨rfl, .refl tree hsound⟩

theorem next_le (h : Since before attachments after) : before.next ≤ after.next :=
  h.elim (fun hgrown => hgrown.2.next_le) Cleared.next_le

theorem generation_le (h : Since before attachments after) :
    before.generation ≤ after.generation :=
  h.elim (fun hgrown => Nat.le_of_eq hgrown.1.symm) fun hcleared =>
    Nat.le_of_lt hcleared.generation_lt

/-- A tree that has not been cleared has grown. -/
theorem grown (h : Since before attachments after)
    (hgeneration : after.generation = before.generation) : Grown before attachments after :=
  h.elim And.right fun hcleared =>
    absurd hgeneration (Nat.ne_of_gt hcleared.generation_lt)

theorem trans (hfirst : Since before attachments middle) (hsecond : Since middle more after)
    (hbefore : before.Sound) (hmiddle : middle.Oriented) :
    Since before (attachments ++ more) after := by
  rcases hsecond with ⟨hgeneration, hsecond⟩ | hsecond
  · rcases hfirst with ⟨hgeneration', hfirst⟩ | hfirst
    · exact Or.inl ⟨hgeneration.trans hgeneration', hfirst.trans hsecond hbefore hmiddle⟩
    · -- what grows after a clearing is new as well
      refine Or.inr ⟨Nat.le_trans hfirst.next_le hsecond.next_le, ?_, fun id hid => ?_, ?_⟩
      · exact hgeneration ▸ hfirst.generation_lt
      · rcases Nat.lt_or_ge id.number middle.next with hlt | hge
        · exact hfirst.number_ge id (hsecond.contains_eq id hlt ▸ hid)
        · exact Nat.le_trans hfirst.next_le hge
      · rcases hsecond.context_eq with hsame | ⟨screen, -, hcontext⟩
        · rw [hsame, hfirst.containers_eq]
        · rw [hcontext]
  · have hnext : before.next ≤ middle.next := next_le hfirst
    refine Or.inr ⟨Nat.le_trans hnext hsecond.next_le, ?_, fun id hid => ?_, hsecond.containers_eq⟩
    · exact Nat.lt_of_le_of_lt (generation_le hfirst) hsecond.generation_lt
    · exact Nat.le_trans hnext (hsecond.number_ge id hid)

/-- What the nodes hold does not matter. -/
theorem reshape {reshaped : Tree κ} (h : Since before attachments after)
    (hshape : SameShape after reshaped) : Since before attachments reshaped := by
  rcases h with ⟨hsame, hgrown⟩ | hcleared
  · exact Or.inl ⟨hshape.generation_eq.trans hsame, hgrown.reshape hshape⟩
  · refine Or.inr ⟨?_, ?_, fun id hid => ?_, ?_⟩
    · exact hshape.next_eq ▸ hcleared.next_le
    · exact hshape.generation_eq ▸ hcleared.generation_lt
    · exact hcleared.number_ge id (hshape.contains id ▸ hid)
    · rw [hshape.context_eq, hcleared.containers_eq]

end Since

end Storyboard.Tree
