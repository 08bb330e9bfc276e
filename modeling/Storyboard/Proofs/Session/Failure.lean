import Storyboard.Proofs.Session.Runs
import Storyboard.Proofs.Tree.Keeping

/-!
# Failed blocks are atomic

When a block has failed and its tree was not cleared meanwhile, the tree is restored
(`Runs.restored`), and the old nodes hold what they held (`Runs.keeps`).  How much of a node that
covers depends on the calls inside: presenters may give nodes another behaviour, and edits may
change anything.  With keywords only the whole tree is the one from before (`Runs.undone`).
-/

namespace Storyboard

open Storyboard.Tree

variable {α : Type} {view : Node Callback → α}

/-- A node without its behaviour, that is, what was declared about it. -/
def Node.declared {κ : Type} (node : Node κ) : Node κ := { node with handle := .unbound }

/-- The calls show nothing else of an old node: none edits it, and if one gives it a behaviour the
view does not show it. -/
structure Conceals (view : Node Callback → α) (calls : List Call) : Prop where
  not_edited : ∀ id, .edited id ∉ calls
  binding : ∀ call ∈ calls, call.isBinding = true →
    ∀ presenter node, view (Session.rebind presenter node) = view node

namespace Conceals

theorem of_subset {calls more : List Call} (h : Conceals view more) (hsubset : calls ⊆ more) :
    Conceals view calls :=
  ⟨fun id hid => h.not_edited id (hsubset hid), fun call hcall => h.binding call (hsubset hcall)⟩

/-- What was declared does not depend on presenters. -/
theorem declared {calls : List Call} (h : ∀ id, Call.edited id ∉ calls) :
    Conceals Node.declared calls :=
  ⟨h, fun _ _ _ _ _ => rfl⟩

/-- Keywords leave declared nodes alone altogether. -/
theorem of_keywords {calls : List Call} (h : ∀ call ∈ calls, call.isKeyword = true) :
    Conceals view calls where
  not_edited id hid := by
    have hkeyword := h (.edited id) hid
    cases hkeyword
  binding call hcall hbinding := by
    rw [Call.isBinding_eq_false (h call hcall)] at hbinding
    cases hbinding

end Conceals

/-! ## What the nodes hold -/

/-- A new widget gets its behaviour, and the old ones keep theirs. -/
theorem Session.keeps_declare (session : Session) (parent : NodeId) (node : Node Callback) :
    Keeps view session.tree
      ({ session with tree := (session.tree.insertChild parent node).2 }.bindNode
        session.tree.fresh).tree := by
  unfold Session.bindNode
  split
  · exact .insertChild _ _ _
  · exact (Keeps.insertChild _ _ _).modify (Nat.le_refl _) _

theorem Session.keeps_rebindAll (presenter : Presenter) (which : NodeId → Bool)
    (tree : Tree Callback)
    (hview : ∀ node, view (Session.rebind presenter node) = view node) :
    Keeps view tree (Session.rebindAll presenter which tree) := by
  apply Keeps.mapNodes
  intro id node
  split
  · exact hview node
  · rfl

theorem Steps.keeps {session next : Session} {call : Call} (h : Steps session call next)
    (hview : Conceals view [call]) : Keeps view session.tree next.tree := by
  have hbind (hbinding : call.isBinding = true) (presenter : Presenter) (node : Node Callback) :
      view (Session.rebind presenter node) = view node :=
    hview.binding call (List.mem_singleton_self _) hbinding presenter node
  -- only a binding changes what a node holds, and the view does not show it
  cases h with
  | screen h =>
      obtain ⟨rfl, rfl⟩ := addScreen_eq_ok h
      exact .withScreen _ _
  | widget h =>
      obtain ⟨parent, -, rfl, rfl⟩ := appendWidget_eq_ok h
      exact session.keeps_declare _ _
  | reset => exact .clear _
  | appended h =>
      obtain ⟨parent, -, rfl, rfl⟩ := appendWidget_eq_ok h
      exact .insertChild _ _ _
  | attached h =>
      obtain ⟨-, rfl, rfl⟩ := addWidget_eq_ok h
      exact .insertChild _ _ _
  | edited id change => exact absurd (List.mem_singleton_self _) (hview.not_edited id)
  | conventionSet => exact .of_subset rfl fun _ _ hnode => hnode
  | installed presenter => exact Session.keeps_rebindAll presenter _ _ (hbind rfl presenter)
  | uninstalled => exact .refl _
  | restored presenter before =>
      unfold Session.restore
      split
      · exact .refl _
      · exact Session.keeps_rebindAll presenter _ _ (hbind rfl presenter)

theorem Opens.keeps {session inside : Session} {call : Call} {block : OpenBlock}
    (h : Opens session call block inside) : Keeps view session.tree inside.tree := by
  cases h with
  | screen h =>
      obtain ⟨rfl, rfl⟩ := addScreen_eq_ok h
      exact .withScreen _ _
  | @container kind args id grown h =>
      obtain ⟨parent, -, rfl, rfl⟩ := appendWidget_eq_ok h
      exact (session.keeps_declare _ _).trans (.of_subset rfl fun _ _ hnode => hnode)

/-- Closing a block at most takes nodes away. -/
theorem OpenBlock.keeps_close (block : OpenBlock) (ending : Ending) (ended : Session) :
    Keeps view ended.tree (block.close ending ended).tree := by
  have hleft : Keeps view ended.tree (ended.tree.leave block.scope) :=
    .of_subset rfl fun _ _ hnode => hnode
  cases ending with
  | returned => exact hleft
  | panicked => exact hleft
  | failed => exact hleft.trans (.rollback _ _ _)

/-- Whatever a program does, what is left of the old nodes looks as it did. -/
theorem Runs.keeps {session last : Session} {calls : List Call} (h : Runs session calls last)
    (hview : Conceals view calls) : Keeps view session.tree last.tree := by
  induction h with
  | done session => exact .refl _
  | step hstep _ ih =>
      -- the calls of the run are concealed, so are those of its parts
      have hfirst :=
        hview.of_subset (List.cons_subset.mpr ⟨List.mem_cons_self .., List.nil_subset _⟩)
      exact (hstep.keeps hfirst).trans (ih (hview.of_subset (List.subset_cons_self _ _)))
  | @block session inside ended last call block calls more ending hopens _ _ ihbody ihrest =>
      have hbody := ihbody (hview.of_subset fun _ hcall => by simp [hcall])
      have hrest := ihrest (hview.of_subset fun _ hcall => by simp [hcall])
      exact ((hopens.keeps.trans hbody).trans (block.keeps_close ending ended)).trans hrest

/-! ## What calls leave alone -/

/-- What no call of a program changes is the same afterwards. -/
theorem Runs.frame {γ : Type} (field : Session → γ) {session last : Session} {calls : List Call}
    (h : Runs session calls last)
    (hsteps : ∀ {session next : Session} {call : Call}, call ∈ calls → Steps session call next →
      field next = field session)
    (hopens : ∀ {session inside : Session} {call : Call} {block : OpenBlock},
      Opens session call block inside → field inside = field session)
    (hclose : ∀ (block : OpenBlock) (ending : Ending) (ended : Session),
      field (block.close ending ended) = field ended) : field last = field session := by
  induction h with
  | done => rfl
  | step hstep _ ih =>
      have hfirst := hsteps (List.mem_cons_self ..) hstep
      exact (ih fun hcall => hsteps (List.mem_cons_of_mem _ hcall)).trans hfirst
  | @block session inside ended last call block calls more ending hblock _ _ ihbody ihrest =>
      have hbody := ihbody fun hcall => hsteps (by simp [hcall])
      have hrest := ihrest fun hcall => hsteps (by simp [hcall])
      rw [hrest, hclose, hbody, hopens hblock]

theorem OpenBlock.close_frame (block : OpenBlock) (ending : Ending) (ended : Session) :
    (block.close ending ended).tree.convention = ended.tree.convention ∧
      (block.close ending ended).tree.generation = ended.tree.generation := by
  cases ending with
  | returned => exact ⟨rfl, rfl⟩
  | panicked => exact ⟨rfl, rfl⟩
  | failed =>
      have hrollback := rollback_frame (ended.tree.leave block.scope) block.before block.node
      exact ⟨hrollback.1, hrollback.2.1⟩

theorem Session.bindNode_frame (session : Session) (id : NodeId) :
    (session.bindNode id).tree.convention = session.tree.convention ∧
      (session.bindNode id).tree.generation = session.tree.generation := by
  unfold Session.bindNode
  split <;> exact ⟨rfl, rfl⟩

theorem Opens.frame {session inside : Session} {call : Call} {block : OpenBlock}
    (h : Opens session call block inside) :
    inside.tree.convention = session.tree.convention ∧
      inside.tree.generation = session.tree.generation := by
  cases h with
  | screen h =>
      obtain ⟨rfl, rfl⟩ := addScreen_eq_ok h
      exact ⟨rfl, rfl⟩
  | container h =>
      obtain ⟨parent, -, rfl, rfl⟩ := appendWidget_eq_ok h
      exact Session.bindNode_frame _ _

theorem Steps.frame {session next : Session} {call : Call} (h : Steps session call next) :
    (call ≠ .conventionSet → next.tree.convention = session.tree.convention) ∧
      (call ≠ .reset → next.tree.generation = session.tree.generation) := by
  cases h with
  | screen h =>
      obtain ⟨rfl, rfl⟩ := addScreen_eq_ok h
      exact ⟨fun _ => rfl, fun _ => rfl⟩
  | widget h =>
      obtain ⟨parent, -, rfl, rfl⟩ := appendWidget_eq_ok h
      exact ⟨fun _ => (Session.bindNode_frame _ _).1, fun _ => (Session.bindNode_frame _ _).2⟩
  | appended h =>
      obtain ⟨parent, -, rfl, rfl⟩ := appendWidget_eq_ok h
      exact ⟨fun _ => rfl, fun _ => rfl⟩
  | attached h =>
      obtain ⟨-, rfl, rfl⟩ := addWidget_eq_ok h
      exact ⟨fun _ => rfl, fun _ => rfl⟩
  | conventionSet => exact ⟨fun hcall => absurd rfl hcall, fun _ => rfl⟩
  | reset => exact ⟨fun _ => rfl, fun hcall => absurd rfl hcall⟩
  | restored presenter before =>
      unfold Session.restore
      split <;> exact ⟨fun _ => rfl, fun _ => rfl⟩
  | edited | installed | uninstalled => exact ⟨fun _ => rfl, fun _ => rfl⟩

theorem Runs.convention_eq {session last : Session} {calls : List Call}
    (h : Runs session calls last) (hcalls : .conventionSet ∉ calls) :
    last.tree.convention = session.tree.convention := by
  apply h.frame fun session => session.tree.convention
  · intro session next call hcall hstep
    exact hstep.frame.1 fun heq => hcalls (heq ▸ hcall)
  · exact fun hopens => hopens.frame.1
  · exact fun block ending ended => (block.close_frame ending ended).1

/-- Only a reset clears the tree. -/
theorem Runs.generation_eq {session last : Session} {calls : List Call}
    (h : Runs session calls last) (hcalls : .reset ∉ calls) :
    last.tree.generation = session.tree.generation := by
  apply h.frame fun session => session.tree.generation
  · intro session next call hcall hstep
    exact hstep.frame.2 fun heq => hcalls (heq ▸ hcall)
  · exact fun hopens => hopens.frame.2
  · exact fun block ending ended => (block.close_frame ending ended).2

/-! ## Undoing a block -/

section Block

variable {session inside ended : Session} {call : Call} {block : OpenBlock} {calls : List Call}
  (hopens : Opens session call block inside) (hbody : Runs inside calls ended)
  (horiented : session.tree.Oriented)
  (hreset : .reset ∉ calls)
include hopens hbody horiented hreset

/-- The tree of a block that failed is restored, unless it was cleared meanwhile. -/
theorem Runs.restored :
    Restored session.tree (attachments calls) (block.close .failed ended).tree ∧
      (block.close .failed ended).tree.Oriented := by
  obtain ⟨hbefore, hnode, hentered⟩ := hopens.entered horiented
  obtain ⟨hended, hsince⟩ := hbody.since hentered.oriented
  -- without a reset the tree has grown, so there is something to be undone
  have hsame := hbody.generation_eq hreset
  have hrestored := hentered.restored horiented hended (hsince.grown hsame) hsame
  rw [← hbefore, ← hnode] at hrestored
  exact hrestored

omit horiented hreset in
/-- What is left of the old nodes when a block has failed. -/
theorem Runs.keeps_failed (hview : Conceals view calls) :
    Keeps view session.tree (block.close .failed ended).tree :=
  (hopens.keeps.trans (hbody.keeps hview)).trans (block.keeps_close .failed ended)

/-- With keywords only, a failed block leaves the tree it found. -/
theorem Runs.undone (hkeywords : ∀ call ∈ calls, call.isKeyword = true) :
    (block.close .failed ended).tree
      = { session.tree with next := (block.close .failed ended).tree.next } := by
  obtain ⟨hrestored, hclosed⟩ := hbody.restored hopens horiented hreset
  -- keywords attach nothing to a node that is not open
  have hnothing : attachments calls = [] :=
    List.filterMap_eq_nil_iff.mpr fun call hcall => Call.attachment?_eq_none (hkeywords call hcall)
  rw [hnothing] at hrestored
  have hconvention : .conventionSet ∉ calls := fun hcall => by
    have hkeyword := hkeywords .conventionSet hcall
    cases hkeyword
  apply hrestored.eq_self horiented.toSound hclosed.toSound
  · exact hbody.keeps_failed hopens (.of_keywords hkeywords)
  · rw [(block.close_frame .failed ended).1, hbody.convention_eq hconvention, hopens.frame.1]
  · rw [(block.close_frame .failed ended).2, hbody.generation_eq hreset, hopens.frame.2]

end Block

end Storyboard
