import Storyboard.Proofs.Session.Failure
import Storyboard.Proofs.Session.Programs

/-!
# Failed keywords are atomic

A keyword that fails has done nothing, or it has opened a block that failed (`Keyword.failsIn`).  In
both cases everything that was in the tree is still there and as it was, and what is new has been
attached by hand (`Keyword.spared`).  The theorem holds in both forms, in every session that a
program can reach, and for every block, whatever fails or panics inside of it.
-/

namespace Storyboard

open Storyboard.Tree

/-- What was in the tree is as it was, and it has got new children by attachment only. -/
structure Tree.Spared (before : Tree Callback) (attachments : List (NodeId × NodeId))
    (after : Tree Callback) : Prop where
  screens_eq : after.screens = before.screens
  context_eq : after.context = before.context
  declared_eq : ∀ id old, before.get? id = some old →
    ∃ node, after.get? id = some node ∧ node.declared = old.declared
  parent?_eq : ∀ id, before.contains id = true → after.parent? id = before.parent? id
  contains_iff : ∀ id,
    after.contains id = true ↔ before.contains id = true ∨ Attached before attachments id
  childrenOf_eq : ∀ parent, before.contains parent = true ∨ Attached before attachments parent →
    after.childrenOf parent = before.childrenOf parent ++ attachedTo attachments parent

/-- A keyword failed that led from one session to another. -/
inductive FailsIn (before : Session) : List Call → Session → Prop
  /-- There was nothing to be undone. -/
  | undeclared : FailsIn before [] before
  | undone {inside ended : Session} {call : Call} {block : OpenBlock} {calls : List Call}
      (hopens : Opens before call block inside) (hbody : Runs inside calls ended) :
      FailsIn before (call :: calls ++ [.closed .failed]) (block.close .failed ended)

namespace FailsIn

variable {before after : Session} {calls : List Call} (h : FailsIn before calls after)
  (horiented : before.tree.Oriented) (hreset : .reset ∉ calls)
include h horiented hreset

theorem restored :
    Restored before.tree (attachments calls) after.tree ∧ after.tree.Oriented := by
  cases h with
  | undeclared => exact ⟨.refl horiented.toSound, horiented⟩
  | @undone inside ended call block inner hopens hbody =>
      have hinner : .reset ∉ inner := fun hcall => hreset (by simp [hcall])
      rw [attachments_block hopens.attachment?_eq_none, attachments, attachments,
        List.filterMap_nil, List.append_nil]
      exact hbody.restored hopens horiented hinner

omit horiented hreset in
theorem keeps {α : Type} {view : Node Callback → α} (hview : Conceals view calls) :
    Keeps view before.tree after.tree := by
  cases h with
  | undeclared => exact .refl _
  | @undone inside ended call block inner hopens hbody =>
      exact hbody.keeps_failed hopens (hview.of_subset fun _ hcall => by simp [hcall])

theorem spared (hedits : ∀ id, .edited id ∉ calls) :
    Spared before.tree (attachments calls) after.tree := by
  obtain ⟨hrestored, hafter⟩ := h.restored horiented hreset
  refine ⟨hrestored.screens_eq, hrestored.context_restored, ?_, ?_, hrestored.contains_iff, ?_⟩
  · intro id old hold
    have hlive : before.tree.contains id = true := Registry.contains_of_get? hold
    have hlt := horiented.number_lt_next id hlive
    have hkept : after.tree.contains id = true := (hrestored.contains_iff id).mpr (Or.inl hlive)
    obtain ⟨node, hnode⟩ := Option.isSome_iff_exists.mp hkept
    obtain ⟨old', hold', hdeclared⟩ :=
      (h.keeps (.declared hedits)).view_eq id node hlt hnode
    obtain rfl : old' = old := Option.some.inj (hold'.symm.trans hold)
    exact ⟨node, hnode, hdeclared⟩
  · intro id hlive
    exact hrestored.parent?_eq id (horiented.number_lt_next id hlive)
  · intro parent hparent
    exact hrestored.childrenOf_eq horiented.toSound hafter.toSound hparent

/-- With keywords only, there is nothing new at all. -/
theorem tree_eq (hkeywords : ∀ call ∈ calls, call.isKeyword = true) :
    after.tree = { before.tree with next := after.tree.next } := by
  cases h with
  | undeclared => rfl
  | @undone inside ended call block inner hopens hbody =>
      apply hbody.undone hopens horiented
      · exact fun hcall => hreset (by simp [hcall])
      · exact fun call hcall => hkeywords call (by simp [hcall])

end FailsIn

/-! ## Keywords -/

/-- A block keyword that fails. -/
theorem failsIn_withBlock {opening : Act OpenBlock} {call : NodeId → Call} {world : World}
    {error : Error} (hopening : OpensOrFails call world (opening.exec world)) (body : Program Unit)
    (hfails : ((withBlock opening body.act).exec world).1 = .error (.failed error)) :
    FailsIn world.session (Keyword.blockCalls call body (opening.exec world))
      ((withBlock opening body.act).exec world).2.session := by
  rw [Act.exec_withBlock] at hfails ⊢
  generalize opening.exec world = outcome at hopening hfails
  obtain ⟨opened, inside⟩ := outcome
  cases opened with
  | error halt =>
      -- the opening failed: nothing has been declared yet
      obtain rfl : inside = world := hopening
      exact .undeclared
  | ok block =>
      have hbody := body.runs inside
      dsimp only [Keyword.blockCalls] at hfails ⊢
      generalize body.act.exec inside = outcome at hfails hbody
      obtain ⟨result, ended⟩ := outcome
      cases result with
      | ok value => cases hfails
      | error halt =>
          -- the block failed with the same error, and is undone
          obtain rfl : halt = .failed error := Except.error.inj hfails
          exact .undone hopening hbody

theorem Keyword.failsIn (mode : Mode) (keyword : Keyword) {world : World} {error : Error}
    (hfails : ((keyword.act mode).exec world).1 = .error (.failed error)) :
    FailsIn world.session (keyword.calls world) ((keyword.act mode).exec world).2.session := by
  cases keyword with
  | screen args =>
      simp only [Keyword.act, Keyword.calls] at hfails ⊢
      rw [Act.exec_screen] at hfails ⊢
      cases hadded : world.session.tree.addScreen args with
      | ok added =>
          -- a keyword without a block fails only if the tree refuses the node
          rw [hadded] at hfails
          cases hfails
      | error error => exact .undeclared
  | widget kind args =>
      simp only [Keyword.act, Keyword.calls] at hfails ⊢
      rw [Act.exec_widget] at hfails ⊢
      cases hadded : world.session.tree.appendWidget kind args world.session.config.strictRows with
      | ok added =>
          rw [hadded] at hfails
          cases hfails
      | error error => exact .undeclared
  | screenBlock args body =>
      simp only [Keyword.act, Keyword.calls] at hfails ⊢
      rw [Act.exec_screenBlock] at hfails ⊢
      exact failsIn_withBlock (opens_openScreen args world) body hfails
  | containerBlock kind args body =>
      simp only [Keyword.act, Keyword.calls] at hfails ⊢
      rw [Act.exec_containerBlock] at hfails ⊢
      exact failsIn_withBlock (opens_openContainer kind args world) body hfails

/-- A keyword that fails without a reset inside spares the tree, and if its block consists of
keywords the tree is the one from before. -/
theorem Keyword.atomic {config : Config} {history : List Call} {world : World}
    (hreached : Reached config history world.session) (mode : Mode) (keyword : Keyword)
    {error : Error} (hfails : ((keyword.act mode).exec world).1 = .error (.failed error))
    (hreset : .reset ∉ keyword.calls world) (hedits : ∀ id, .edited id ∉ keyword.calls world) :
    Spared world.session.tree (attachments (keyword.calls world))
        ((keyword.act mode).exec world).2.session.tree ∧
      ((∀ call ∈ keyword.calls world, call.isKeyword = true) →
        ∃ next, ((keyword.act mode).exec world).2.session.tree
          = { world.session.tree with next := next }) := by
  have hfailure := keyword.failsIn mode hfails
  have horiented := hreached.oriented
  refine ⟨hfailure.spared horiented hreset hedits, fun hkeywords => ?_⟩
  exact ⟨_, hfailure.tree_eq horiented hreset hkeywords⟩

/-- A table in whose block a label is declared before the block fails. -/
def failingTable : Keyword :=
  .containerBlock .table (.text "Form")
    ((Program.keyword .ambient (.widget .label (.text "Name"))).bind fun _ =>
      .fail (.invalidArguments "stop"))

theorem atomic_failingTable :
    failingTable.calls { session := homeSession, journal := {} }
        = [.containerOpened ⟨1⟩, .widget ⟨2⟩, .closed .failed] ∧
      ∃ next, ((failingTable.act .ambient).exec
        { session := homeSession, journal := {} }).2.session.tree
          = { homeSession.tree with next := next } := by
  have hcalls : failingTable.calls { session := homeSession, journal := {} }
      = [.containerOpened ⟨1⟩, .widget ⟨2⟩, .closed .failed] := rfl
  have hfails : ((failingTable.act .ambient).exec { session := homeSession, journal := {} }).1
      = .error (.failed (.invalidArguments "stop")) := rfl
  have hatomic := Keyword.atomic reached_home .ambient failingTable hfails
    (by rw [hcalls]; decide) (by rw [hcalls]; simp)
  exact ⟨hcalls, hatomic.2 (by rw [hcalls]; decide)⟩

end Storyboard
