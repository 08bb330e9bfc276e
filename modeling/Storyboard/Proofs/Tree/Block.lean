import Storyboard.Proofs.Tree.Growth
import Storyboard.Proofs.Tree.Rollback

/-!
# Blocks

A block is opened for a new node, runs with that node as the one that receives widgets, and is left
again; if it failed it is undone.  `Entered` says how a tree looks when a block begins.

* `Entered.since`: whatever grew inside a block that is left has grown outside of it as well.
* `Entered.gone_iff`: what a rollback takes out is what is new and was not attached by hand.
* `Entered.restored`: so what is left after the rollback are the old nodes and the attached ones.

Only two things are known about what happens inside: the tree has grown from the one that was
entered, or it has been cleared on the way.
-/

namespace Storyboard.Tree

variable {κ : Type}

/-- What leaving a block leads back to, and what the block runs in. -/
inductive Entrance (before : Tree κ) : Scope → Context → Prop
  | screen : Entrance before .screen { screen := some before.fresh }
  | container {screen : NodeId} (hscreen : before.context.screen = some screen) :
      Entrance before (.container before.context.screen before.context.containers)
        { before.context with containers := before.fresh :: before.context.containers }

/-- `entered` is the tree `before` with one more node, which receives the next widget until the
scope is left. -/
structure Entered (before : Tree κ) (scope : Scope) (entered : Tree κ) : Prop where
  oriented : entered.Oriented
  next_eq : entered.next = before.next + 1
  generation_eq : entered.generation = before.generation
  contains_eq : ∀ id, entered.contains id = (decide (id = before.fresh) || before.contains id)
  parent?_eq : ∀ id, id ≠ before.fresh → entered.parent? id = before.parent? id
  /-- The new node stands where the context pointed, unless it is a screen. -/
  parent?_fresh : ∀ parent, entered.parent? before.fresh = some parent →
    before.context.target? = some parent
  entrance : Entrance before scope entered.context

/-- The tree when a block has been left. -/
def leave (tree : Tree κ) (scope : Scope) : Tree κ :=
  { tree with context := tree.context.leave scope }

theorem screen_leave (context : Context) (scope : Scope) :
    (context.leave scope).screen = context.screen := by
  cases scope with
  | screen => rfl
  | container screen saved => simp only [Context.leave, apply_ite, ite_self]

/-! ## Entering -/

theorem entered_withScreen {before : Tree κ} (h : before.Oriented) (node : Node κ) :
    Entered before .screen (before.withScreen node) where
  oriented := h.withScreen node
  next_eq := rfl
  generation_eq := rfl
  contains_eq id := before.contains_withScreen node id
  parent?_eq _ _ := rfl
  parent?_fresh parent hparent := by
    rw [parent?_withScreen, h.consistent.parent?_eq_none h.contains_fresh] at hparent
    cases hparent
  entrance := .screen

theorem Oriented.exists_screen {tree : Tree κ} (h : tree.Oriented) {target : NodeId}
    (htarget : tree.context.target? = some target) :
    ∃ screen, tree.context.screen = some screen := by
  cases hscreen : tree.context.screen with
  | some screen => exact ⟨screen, rfl⟩
  | none =>
      have hlinked := h.linked
      rw [hscreen] at hlinked
      simp [Context.target?, Context.container?, hlinked.eq_nil, hscreen] at htarget

/-- The node of a container may have been given its behaviour before the block is entered. -/
theorem entered_container {before declared : Tree κ} (h : before.Oriented) {parent : NodeId}
    (htarget : before.context.target? = some parent) (node : Node κ)
    (hshape : SameShape (before.insertChild parent node).2 declared) :
    Entered before (.container before.context.screen before.context.containers)
      { declared with context := (declared.context.enterContainer before.fresh).2 } := by
  have hcontext : declared.context = before.context := hshape.context_eq
  -- the behaviour of the node does not move it
  have hparent (id : NodeId) :
      declared.parent? id = if id = before.fresh then some parent else before.parent? id := by
    rw [hshape.parent?, parent?_insertChild]
  have horiented : declared.Oriented :=
    (h.insertChild (h.contains_target htarget) node).reshape hshape
  constructor
  case oriented => exact horiented.enterContainer (hcontext ▸ htarget) (by simp [hparent])
  case next_eq => exact hshape.next_eq
  case generation_eq => exact hshape.generation_eq
  case contains_eq =>
    intro id
    exact (hshape.contains id).trans (before.contains_insertChild node parent id)
  case parent?_eq =>
    intro id hid
    exact (hparent id).trans (if_neg hid)
  case parent?_fresh =>
    intro above habove
    have hfresh : declared.parent? before.fresh = some above := habove
    rw [hparent, if_pos rfl] at hfresh
    exact hfresh ▸ htarget
  case entrance =>
    obtain ⟨screen, hscreen⟩ := h.exists_screen htarget
    have hentrance := Entrance.container hscreen
    rw [← hcontext] at hentrance ⊢
    exact hentrance

namespace Entered

variable {before entered after : Tree κ} {scope : Scope} {attachments : List (NodeId × NodeId)}

theorem target (h : Entered before scope entered) :
    entered.context.target? = some before.fresh := by
  obtain ⟨-, -, -, -, -, -, hentrance⟩ := h
  generalize entered.context = context at hentrance
  cases hentrance with
  | screen => rfl
  | container => rfl

/-! ## What has grown inside -/

section Inside

variable (h : Entered before scope entered) (hrun : Grown entered attachments after)
include h hrun

theorem contains_old {id : NodeId} (hid : id.number < before.next) :
    after.contains id = before.contains id := by
  have hlt : id.number < entered.next := by
    rw [h.next_eq]
    omega
  have hne : id ≠ before.fresh := ne_fresh before hid
  rw [hrun.contains_eq id hlt, h.contains_eq, decide_eq_false hne, Bool.false_or]

theorem parent?_old {id : NodeId} (hid : id.number < before.next) :
    after.parent? id = before.parent? id := by
  have hlt : id.number < entered.next := by
    rw [h.next_eq]
    omega
  rw [hrun.parent?_eq id hlt, h.parent?_eq id (ne_fresh before hid)]

omit hrun in
/-- What was attached to a node from outside was attached inside the block. -/
theorem attached_inside {id : NodeId} (hid : Attached before attachments id) :
    Attached entered attachments id := by
  have hcontains (id : NodeId) (hlive : before.contains id = true) :
      entered.contains id = true := by
    rw [h.contains_eq, hlive, Bool.or_true]
  exact hid.mono hcontains (List.Subset.refl _)

theorem number_of_pair {parent id : NodeId} (hpair : (parent, id) ∈ attachments) :
    before.next < id.number := by
  have hle := (hrun.attachment_new id parent hpair).1
  rw [h.next_eq] at hle
  omega

/-- The node of the block itself was declared, not attached. -/
theorem not_attached_fresh : ¬ Attached before attachments before.fresh := by
  intro hattached
  obtain ⟨parent, hpair, -⟩ := hattached.exists_parent
  exact absurd (h.number_of_pair hrun hpair) (Nat.lt_irrefl _)

/-- Inside a block nothing is put below a node from outside but what is attached there. -/
theorem placed_inside {id parent : NodeId} (hid : before.next ≤ id.number)
    (hne : id ≠ before.fresh) (hnot : ¬ Attached before attachments id)
    (hparent : after.parent? id = some parent) :
    before.next ≤ parent.number ∧ ¬ Attached before attachments parent := by
  have hnumber : id.number ≠ before.next := fun heq => hne (NodeId.eq_of_number_eq heq)
  -- the node is not the one of the block, so it was made inside
  have hnew : entered.next ≤ id.number := by
    rw [h.next_eq]
    omega
  by_cases hattached : Attached entered attachments id
  · -- it was attached to a node that is new itself, so its parent is not one from outside
    obtain ⟨above, hpair, habove⟩ := hattached.exists_parent
    have hplace := (hrun.attached id above hpair habove).2
    obtain rfl : above = parent := Option.some.inj (hplace.symm.trans hparent)
    refine ⟨?_, fun hold => hnot (.further hpair hold)⟩
    by_contra hold
    have hlt : above.number < before.next := Nat.lt_of_not_le hold
    rcases habove with hlive | hlater
    · rw [h.contains_eq, decide_eq_false (ne_fresh before hlt), Bool.false_or] at hlive
      exact hnot (.under hpair hlive)
    · have hle := (hrun.number_of_attached hlater).1
      rw [h.next_eq] at hle
      omega
  · rcases hrun.placed id parent hnew hattached hparent with htarget | ⟨hle, hfree⟩
    · -- it stands below the node of the block
      rw [h.target] at htarget
      obtain rfl : before.fresh = parent := Option.some.inj htarget
      exact ⟨Nat.le_refl _, h.not_attached_fresh hrun⟩
    · rw [h.next_eq] at hle
      exact ⟨by omega, fun hold => hfree (h.attached_inside hold)⟩

end Inside

/-! ## Leaving -/

/-- A screen that was declared inside is not the one from before the block. -/
theorem leave_of_new_screen (h : Entered before scope entered) (hbefore : before.Oriented)
    {context : Context} (hscreen : ∀ screen, context.screen = some screen →
      before.next ≤ screen.number) :
    context.leave scope = { screen := context.screen } := by
  obtain ⟨-, -, -, -, -, -, hentrance⟩ := h
  generalize entered.context = inside at hentrance
  cases hentrance with
  | screen => rfl
  | @container screen hold =>
      -- the screen from before is older than the one that is current now
      have hne : context.screen ≠ before.context.screen := by
        intro heq
        have hlt := hbefore.number_lt_next screen (hbefore.contains_screen hold)
        have hle := hscreen screen (heq.trans hold)
        omega
      exact if_neg hne

/-- When a block is left the context is that of before, or it points at a new screen. -/
theorem leave_eq (h : Entered before scope entered) (hbefore : before.Oriented)
    (hrun : Grown entered attachments after) :
    after.context.leave scope = before.context ∨
      ∃ screen : NodeId, before.next ≤ screen.number ∧
        after.context.leave scope = { screen := some screen } := by
  -- either the context is the one the block began with, or a screen was declared since
  rcases hrun.context_eq with hsame | ⟨screen, hscreen, hcontext⟩
  · rw [hsame]
    obtain ⟨-, -, -, -, -, -, hentrance⟩ := h
    generalize entered.context = inside at hentrance
    cases hentrance with
    | screen => exact Or.inr ⟨before.fresh, Nat.le_refl _, rfl⟩
    | container => exact Or.inl (if_pos rfl)
  · have hnew : before.next ≤ screen.number := by
      rw [h.next_eq] at hscreen
      omega
    refine Or.inr ⟨screen, hnew, ?_⟩
    rw [h.leave_of_new_screen hbefore, hcontext]
    intro other hother
    rw [hcontext] at hother
    exact Option.some.inj hother ▸ hnew

/-- What has grown inside a block has grown when the block is left. -/
theorem grown (h : Entered before scope entered) (hbefore : before.Oriented)
    (hrun : Grown entered attachments after) :
    Grown before attachments (after.leave scope) where
  next_le := by
    have hle := hrun.next_le
    rw [h.next_eq] at hle
    exact Nat.le_of_succ_le hle
  contains_eq _ hid := h.contains_old hrun hid
  parent?_eq _ hid := h.parent?_old hrun hid
  context_eq := h.leave_eq hbefore hrun
  placed id parent hid hnot hparent := by
    by_cases hfresh : id = before.fresh
    · subst hfresh
      have hlt : before.fresh.number < entered.next := by
        rw [h.next_eq, number_fresh]
        exact Nat.lt_succ_self _
      have habove : after.parent? before.fresh = some parent := hparent
      rw [hrun.parent?_eq before.fresh hlt] at habove
      exact Or.inl (h.parent?_fresh parent habove)
    · exact Or.inr (h.placed_inside hrun hid hfresh hnot hparent)
  attached id parent hpair hparent := by
    refine hrun.attached id parent hpair (hparent.imp ?_ h.attached_inside)
    intro hlive
    rw [h.contains_eq, hlive, Bool.or_true]
  attachment_new id parent hpair := by
    obtain ⟨-, hlt, hbelow⟩ := hrun.attachment_new id parent hpair
    exact ⟨Nat.le_of_lt (h.number_of_pair hrun hpair), hlt, hbelow⟩
  attachments_inOrder := hrun.attachments_inOrder

/-- What was cleared inside a block is cleared when the block is left. -/
theorem cleared (h : Entered before scope entered) (hbefore : before.Oriented)
    (hrun : Cleared entered after) (hafter : after.Oriented) :
    Cleared before (after.leave scope) := by
  have hle : before.next ≤ entered.next := by
    rw [h.next_eq]
    exact Nat.le_succ _
  refine ⟨Nat.le_trans hle hrun.next_le, h.generation_eq ▸ hrun.generation_lt, ?_, ?_⟩
  · intro id hid
    exact Nat.le_trans hle (hrun.number_ge id hid)
  · change (after.context.leave scope).containers = []
    rw [h.leave_of_new_screen hbefore]
    intro screen hscreen
    exact Nat.le_trans hle (hrun.number_ge screen (hafter.contains_screen hscreen))

theorem since (h : Entered before scope entered) (hbefore : before.Oriented)
    (hrun : Since entered attachments after) (hafter : after.Oriented) :
    Since before attachments (after.leave scope) := by
  rcases hrun with ⟨hgeneration, hgrown⟩ | hcleared
  · exact Or.inl ⟨hgeneration.trans h.generation_eq, h.grown hbefore hgrown⟩
  · exact Or.inr (h.cleared hbefore hcleared hafter)

/-- The containers that are open again after a block were open before it. -/
theorem oriented_leave (h : Entered before scope entered) (hbefore : before.Oriented)
    (hrun : Since entered attachments after) (hafter : after.Oriented) :
    (after.leave scope).Oriented where
  toSound := hafter.toSound.of_same_shape rfl rfl rfl rfl rfl
  screen_eq := (screen_leave after.context scope).trans hafter.screen_eq
  linked := by
    -- the old containers are still linked, since old nodes keep their parents
    rcases h.since hbefore hrun hafter with ⟨-, hgrown⟩ | hcleared
    · rcases hgrown.context_eq with hsame | ⟨screen, -, hnew⟩
      · rw [hsame]
        refine hbefore.linked.congr fun container hcontainer => ?_
        have hlive : before.contains container = true := hbefore.contains_container hcontainer
        exact hgrown.parent?_eq container (hbefore.number_lt_next container hlive)
      · rw [hnew]
        trivial
    · rw [hcleared.containers_eq]
      trivial

end Entered

end Storyboard.Tree
