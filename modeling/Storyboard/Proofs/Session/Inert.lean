import Storyboard.Proofs.Session.Runs
import Storyboard.Proofs.Tree.Keeping

/-!
# Inert sessions

What is done on a click and what a presenter does may run steps.  A session is inert if nothing in
it does: every callback in its tree and its presenter have no steps.  Declarations with inert
arguments, inert presenters, and whatever takes nodes away leave a session inert.
-/

namespace Storyboard

/-- Nothing is run on a click. -/
def Callback.Inert (callback : Callback) : Prop := callback.steps = []

def Args.Inert : Args Callback → Prop
  | .text _ => True
  | .attributes given => ∀ callback ∈ given.onClick, callback.Inert

def Handle.Inert : Handle Callback → Prop
  | .recorded _ onClick => ∀ callback ∈ onClick, callback.Inert
  | _ => True

structure Node.Inert (node : Node Callback) : Prop where
  onClick : ∀ callback ∈ node.onClick, callback.Inert
  handle : node.handle.Inert

/-- Nothing is run for a presentation, and a node is given nothing to run that it did not ask for.
-/
structure Presenter.Inert (presenter : Presenter) : Prop where
  steps : presenter.steps = []
  bind : ∀ {node : Node Callback}, node.Inert → (presenter.bind node).Inert

def Tree.Inert (tree : Tree Callback) : Prop :=
  ∀ id node, tree.get? id = some node → node.Inert

structure Session.Inert (session : Session) : Prop where
  tree : session.tree.Inert
  presenter : ∀ presenter ∈ session.presenter, presenter.Inert

/-! ## Nodes -/

theorem Node.inert_ofArgs {args : Args Callback} (h : args.Inert) (kind : NodeKind)
    (convention : IdConvention) : (Node.ofArgs kind convention args).Inert := by
  cases args with
  | text value => cases kind <;> exact ⟨by simp [Node.ofArgs], trivial⟩
  | attributes given => exact ⟨h, trivial⟩

theorem Node.Inert.rebind {node : Node Callback} (h : node.Inert) {presenter : Presenter}
    (hpresenter : presenter.Inert) : (Session.rebind presenter node).Inert :=
  ⟨h.onClick, hpresenter.bind h⟩

/-! ## Trees -/

namespace Tree

namespace Inert

variable {tree grown : Tree Callback}

theorem addScreen {args : Args Callback} {id : NodeId} (h : tree.Inert) (hargs : args.Inert)
    (hgrown : tree.addScreen args = .ok (id, grown)) : grown.Inert := by
  obtain ⟨-, rfl⟩ := addScreen_eq_ok hgrown
  exact Holds.withScreen h (Node.inert_ofArgs hargs _ _)

theorem appendWidget {kind : WidgetKind} {args : Args Callback} {strictRows : Bool} {id : NodeId}
    (h : tree.Inert) (hargs : args.Inert)
    (hgrown : tree.appendWidget kind args strictRows = .ok (id, grown)) : grown.Inert := by
  obtain ⟨parent, -, -, rfl⟩ := appendWidget_eq_ok hgrown
  exact Holds.insertChild h (Node.inert_ofArgs hargs _ _) parent

theorem rebindAll (h : tree.Inert) {presenter : Presenter} (hpresenter : presenter.Inert)
    (which : NodeId → Bool) : (Session.rebindAll presenter which tree).Inert := by
  intro id node hnode
  obtain ⟨old, hold, rfl⟩ := Option.map_eq_some_iff.mp
    ((Registry.get?_mapValues tree.nodes _ id).symm.trans hnode)
  split
  · exact (h id old hold).rebind hpresenter
  · exact h id old hold

theorem rebind (h : tree.Inert) {presenter : Presenter} (hpresenter : presenter.Inert)
    (id : NodeId) : (tree.modify id (Session.rebind presenter)).Inert := by
  intro other node hnode
  have hmodified := (tree.nodes.get?_modify id other _).symm.trans hnode
  split at hmodified
  · obtain ⟨old, hold, rfl⟩ := Option.map_eq_some_iff.mp hmodified
    exact (h other old hold).rebind hpresenter
  · exact h other node hmodified

end Inert

end Tree

/-! ## Sessions -/

theorem Session.inert_ofConfig (config : Config) : (ofConfig config).Inert :=
  ⟨Tree.Holds.ofConvention _, fun _ hpresenter => by cases hpresenter⟩

namespace Session.Inert

variable {session : Session}

/-- Only the tree has changed. -/
theorem withTree (h : session.Inert) {tree : Tree Callback} (htree : tree.Inert) :
    { session with tree := tree }.Inert :=
  ⟨htree, h.presenter⟩

theorem reset (h : session.Inert) : session.reset.Inert :=
  h.withTree (Tree.Holds.clear _)

theorem install (h : session.Inert) {presenter : Presenter} (hpresenter : presenter.Inert) :
    (session.install presenter).Inert := by
  refine ⟨h.tree.rebindAll hpresenter _, ?_⟩
  rintro other hother
  cases hother
  exact hpresenter

theorem bindNode (h : session.Inert) (id : NodeId) : (session.bindNode id).Inert := by
  unfold Session.bindNode
  split
  · exact h
  · next presenter hinstalled =>
      exact h.withTree (h.tree.rebind (h.presenter presenter hinstalled) id)

theorem close (h : session.Inert) (block : OpenBlock) (ending : Ending) :
    (block.close ending session).Inert := by
  have hleft : (session.tree.leave block.scope).Inert := h.tree
  unfold OpenBlock.close
  dsimp only
  split
  · exact h.withTree (Tree.Holds.rollback hleft _ _)
  · exact h.withTree hleft

theorem handle (h : session.Inert) {id : NodeId} {handle : Handle Callback}
    (hhandle : session.handleOf id = .ok handle) : handle.Inert := by
  unfold Session.handleOf at hhandle
  split at hhandle
  case h_1 => cases hhandle
  case h_2 node hnode =>
    cases hhandle
    exact (h.tree id node hnode).handle

end Session.Inert

end Storyboard
