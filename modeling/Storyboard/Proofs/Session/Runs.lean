import Storyboard.Proofs.Tree.Undoing
import Storyboard.Session.Engine

/-!
# Runs of a session

What a program does to a session is a list of calls: nodes are declared, blocks are opened and
closed, fields are edited, presenters come and go.  `Runs` relates the session before and after a
program whose blocks have all been closed, each in one of three ways (`Ending`); the calls are
written down in order, and what a failed block did is written down as well.  A session is `Reached`
if a program can be there, possibly inside blocks that are still open.

Two things are proved about every run, and everything else is derived from them.

* `Runs.since`: the tree has grown, or has been cleared on the way, and its context points into it.
* `Runs.keeps`: what is left of the old nodes holds what it held, unless it was edited.
-/

namespace Storyboard

/-- How a block ends. -/
inductive Ending where
  | returned
  | failed
  | panicked
  deriving DecidableEq

/-- One thing that is done to a session. -/
inductive Call where
  | screen (id : NodeId)
  | widget (id : NodeId)
  | screenOpened (id : NodeId)
  | containerOpened (id : NodeId)
  | closed (ending : Ending)
  | reset
  /-- A widget was added where the context points, without regard to the presenter. -/
  | appended (id : NodeId)
  /-- A widget was added below a given node. -/
  | attached (parent id : NodeId)
  | edited (id : NodeId)
  | conventionSet
  | installed
  | uninstalled
  /-- A presenter was put back after a presentation. -/
  | restored
  deriving DecidableEq

namespace Call

/-- Whether the call is that of a keyword. -/
def isKeyword : Call → Bool
  | .screen _ | .widget _ | .screenOpened _ | .containerOpened _ | .closed _ | .reset => true
  | _ => false

/-- Whether the call gives a behaviour to nodes that have been declared before. -/
def isBinding : Call → Bool
  | .installed | .restored => true
  | _ => false

/-- The parent and the child, if the call attached a node by hand. -/
def attachment? : Call → Option (NodeId × NodeId)
  | .attached parent id => some (parent, id)
  | _ => none

theorem isBinding_eq_false {call : Call} (h : call.isKeyword = true) :
    call.isBinding = false := by
  cases call <;> first | rfl | cases h

theorem attachment?_eq_none {call : Call} (h : call.isKeyword = true) :
    call.attachment? = none := by
  cases call <;> first | rfl | cases h

end Call

/-- The nodes that were attached by hand, with their parents. -/
def attachments (calls : List Call) : List (NodeId × NodeId) := calls.filterMap Call.attachment?

theorem attachments_append (calls more : List Call) :
    attachments (calls ++ more) = attachments calls ++ attachments more :=
  List.filterMap_append

/-- What is remembered of a block that is open. -/
structure OpenBlock where
  before : Tree.Checkpoint
  node : NodeId
  scope : Scope

/-- The session when a block has been closed: the scope is left, and a failure is undone. -/
def OpenBlock.close (block : OpenBlock) (ending : Ending) (session : Session) : Session :=
  let left := session.tree.leave block.scope
  match ending with
  | .failed => { session with tree := left.rollback block.before block.node }
  | _ => { session with tree := left }

/-- A call without a block leads from `session` to another one. -/
inductive Steps (session : Session) : Call → Session → Prop
  | screen {args : Args Callback} {id : NodeId} {grown : Tree Callback}
      (h : session.tree.addScreen args = .ok (id, grown)) :
      Steps session (.screen id) { session with tree := grown }
  | widget {kind : WidgetKind} {args : Args Callback} {id : NodeId} {grown : Tree Callback}
      (h : session.tree.appendWidget kind args session.config.strictRows = .ok (id, grown)) :
      Steps session (.widget id) ({ session with tree := grown }.bindNode id)
  | reset : Steps session .reset session.reset
  | appended {kind : WidgetKind} {args : Args Callback} {strictRows : Bool} {id : NodeId}
      {grown : Tree Callback}
      (h : session.tree.appendWidget kind args strictRows = .ok (id, grown)) :
      Steps session (.appended id) { session with tree := grown }
  | attached {parent : NodeId} {args : Args Callback} {kind : WidgetKind} {id : NodeId}
      {grown : Tree Callback} (h : session.tree.addWidget parent args kind = .ok (id, grown)) :
      Steps session (.attached parent id) { session with tree := grown }
  | edited (id : NodeId) (change : Node Callback → Node Callback) :
      Steps session (.edited id) { session with tree := session.tree.modify id change }
  | conventionSet (convention : IdConvention) :
      Steps session .conventionSet
        { session with tree := { session.tree with convention := convention } }
  | installed (presenter : Presenter) : Steps session .installed (session.install presenter)
  | uninstalled : Steps session .uninstalled session.uninstall
  | restored (presenter : Presenter) (before : Tree Callback) :
      Steps session .restored (session.restore presenter before)

/-- The session inside a container that has just been declared. -/
def Session.enterContainer (session : Session) (id : NodeId) : Session :=
  { session with
    tree := { session.tree with context := (session.tree.context.enterContainer id).2 } }

/-- A block is opened, and the session inside is the last one. -/
inductive Opens (session : Session) : Call → OpenBlock → Session → Prop
  | screen {args : Args Callback} {id : NodeId} {grown : Tree Callback}
      (h : session.tree.addScreen args = .ok (id, grown)) :
      Opens session (.screenOpened id)
        { before := session.tree.checkpoint, node := id, scope := .screen }
        { session with tree := grown }
  | container {kind : WidgetKind} {args : Args Callback} {id : NodeId} {grown : Tree Callback}
      (h : session.tree.appendWidget kind args session.config.strictRows = .ok (id, grown)) :
      Opens session (.containerOpened id)
        { before := session.tree.checkpoint, node := id,
          scope := .container session.tree.context.screen session.tree.context.containers }
        (({ session with tree := grown }.bindNode id).enterContainer id)

/-- A program whose blocks have all been closed leads from one session to another. -/
inductive Runs : Session → List Call → Session → Prop
  | done (session : Session) : Runs session [] session
  | step {session next last : Session} {call : Call} {calls : List Call}
      (hstep : Steps session call next) (hrest : Runs next calls last) :
      Runs session (call :: calls) last
  | block {session inside ended last : Session} {call : Call} {block : OpenBlock}
      {calls more : List Call} {ending : Ending} (hopens : Opens session call block inside)
      (hbody : Runs inside calls ended) (hrest : Runs (block.close ending ended) more last) :
      Runs session (call :: calls ++ .closed ending :: more) last

/-- The sessions in which a program can be, with the calls so far. -/
inductive Reached (config : Config) : List Call → Session → Prop
  | start : Reached config [] (.ofConfig config)
  | run {calls more : List Call} {session next : Session} (h : Reached config calls session)
      (hrun : Runs session more next) : Reached config (calls ++ more) next
  | enter {calls : List Call} {session inside : Session} {call : Call} {block : OpenBlock}
      (h : Reached config calls session) (hopens : Opens session call block inside) :
      Reached config (calls ++ [call]) inside

namespace Runs

theorem append {session middle last : Session} {calls more : List Call}
    (h : Runs session calls middle) (hmore : Runs middle more last) :
    Runs session (calls ++ more) last := by
  induction h with
  | done => exact hmore
  | step hstep _ ih => exact .step hstep (ih hmore)
  | @block session inside ended last call block calls more' ending hopens hbody _ _ ih =>
      rw [List.append_assoc, List.cons_append]
      exact .block hopens hbody (ih hmore)

theorem single {session next : Session} {call : Call} (h : Steps session call next) :
    Runs session [call] next :=
  .step h (.done next)

end Runs

/-! ## Shapes -/

namespace Session

variable (session : Session)

theorem shape_bindNode (id : NodeId) :
    Tree.SameShape session.tree (session.bindNode id).tree := by
  unfold bindNode
  split
  · exact .refl _
  · exact .modify _ _ _

theorem shape_rebindAll (presenter : Presenter) (which : NodeId → Bool) (tree : Tree Callback) :
    Tree.SameShape tree (rebindAll presenter which tree) :=
  ⟨Registry.keys_mapValues _ _, rfl, rfl, rfl, rfl, rfl, rfl⟩

theorem shape_restore (presenter : Presenter) (before : Tree Callback) :
    Tree.SameShape session.tree (session.restore presenter before).tree := by
  unfold restore
  split
  · exact .refl _
  · exact shape_rebindAll presenter _ _

end Session

/-! ## The tree of a run -/

open Storyboard.Tree in
/-- A call without a block keeps the context pointing into the tree. -/
theorem Steps.since {session next : Session} {call : Call} (h : Steps session call next)
    (horiented : session.tree.Oriented) :
    next.tree.Oriented ∧ Since session.tree (attachments [call]) next.tree := by
  have hsound := horiented.toSound
  -- an act that keeps the shape of the tree keeps both properties
  have hsame {after : Tree Callback} (hshape : SameShape session.tree after) :
      after.Oriented ∧ Since session.tree [] after :=
    ⟨horiented.reshape hshape, (Since.refl hsound).reshape hshape⟩
  cases h with
  | screen h =>
      obtain ⟨rfl, rfl⟩ := addScreen_eq_ok h
      exact ⟨horiented.withScreen _, Or.inl ⟨rfl, .withScreen hsound _⟩⟩
  | @widget kind args id grown h =>
      obtain ⟨parent, htarget, rfl, hgrown⟩ := appendWidget_eq_ok h
      have hparent := horiented.contains_target htarget
      -- the presenter changes what the node holds, not where it stands
      have hshape := Session.shape_bindNode { session with tree := grown } session.tree.fresh
      subst hgrown
      have hgrew : Since session.tree []
          (session.tree.insertChild parent
            (Node.ofArgs (.widget kind) session.tree.convention args)).2 :=
        Or.inl ⟨rfl, .insertChild hsound _ htarget⟩
      exact ⟨(horiented.insertChild hparent _).reshape hshape, hgrew.reshape hshape⟩
  | reset => exact ⟨.of_empty (sound_clear _) rfl rfl, Or.inr (.clear _)⟩
  | appended h =>
      obtain ⟨parent, htarget, rfl, rfl⟩ := appendWidget_eq_ok h
      have hparent := horiented.contains_target htarget
      exact ⟨horiented.insertChild hparent _, Or.inl ⟨rfl, .insertChild hsound _ htarget⟩⟩
  | attached h =>
      obtain ⟨hparent, rfl, rfl⟩ := addWidget_eq_ok h
      exact ⟨horiented.insertChild hparent _, Or.inl ⟨rfl, .attachChild hsound _ hparent⟩⟩
  | edited id change => exact hsame (.modify _ _ _)
  | conventionSet => exact hsame ⟨rfl, rfl, rfl, rfl, rfl, rfl, rfl⟩
  | installed presenter => exact hsame (Session.shape_rebindAll presenter _ _)
  | uninstalled => exact hsame (.refl _)
  | restored presenter before => exact hsame (Session.shape_restore session presenter before)

open Storyboard.Tree in
/-- A block that is opened is entered. -/
theorem Opens.entered {session inside : Session} {call : Call} {block : OpenBlock}
    (h : Opens session call block inside) (horiented : session.tree.Oriented) :
    block.before = session.tree.checkpoint ∧ block.node = session.tree.fresh ∧
      Entered session.tree block.scope inside.tree := by
  cases h with
  | screen h =>
      obtain ⟨rfl, rfl⟩ := addScreen_eq_ok h
      exact ⟨rfl, rfl, entered_withScreen horiented _⟩
  | @container kind args id grown h =>
      obtain ⟨parent, htarget, rfl, hgrown⟩ := appendWidget_eq_ok h
      have hshape := Session.shape_bindNode { session with tree := grown } session.tree.fresh
      subst hgrown
      exact ⟨rfl, rfl, entered_container horiented htarget _ hshape⟩

theorem Opens.attachment?_eq_none {session inside : Session} {call : Call} {block : OpenBlock}
    (h : Opens session call block inside) : call.attachment? = none := by
  cases h with
  | screen => rfl
  | container => rfl

theorem attachments_block {call : Call} (hcall : call.attachment? = none) (calls more : List Call)
    (ending : Ending) :
    attachments (call :: calls ++ .closed ending :: more)
      = attachments calls ++ attachments more := by
  have hopened : attachments (call :: calls) = attachments calls := List.filterMap_cons_none hcall
  have hclosed : attachments (.closed ending :: more) = attachments more :=
    List.filterMap_cons_none rfl
  rw [attachments_append, hopened, hclosed]

open Storyboard.Tree in
/-- A block leads from one session to another like a call without a block. -/
theorem Opens.since {session inside ended : Session} {call : Call} {block : OpenBlock}
    {attachments : List (NodeId × NodeId)} (h : Opens session call block inside) (ending : Ending)
    (horiented : session.tree.Oriented) (hended : ended.tree.Oriented)
    (hbody : Since inside.tree attachments ended.tree) :
    (block.close ending ended).tree.Oriented ∧
      Since session.tree attachments (block.close ending ended).tree := by
  obtain ⟨hbefore, hnode, hentered⟩ := h.entered horiented
  have hleft : (ended.tree.leave block.scope).Oriented ∧
      Since session.tree attachments (ended.tree.leave block.scope) :=
    ⟨hentered.oriented_leave horiented hbody hended, hentered.since horiented hbody hended⟩
  -- a block that failed is left and then undone, every other one is only left
  cases ending with
  | returned => exact hleft
  | panicked => exact hleft
  | failed =>
      have hundone := hentered.undone horiented hended hbody
      rw [← hbefore, ← hnode] at hundone
      exact hundone.symm

open Storyboard.Tree in
/-- Whatever a program does, the tree has grown or was cleared, and its context points into it. -/
theorem Runs.since {session last : Session} {calls : List Call} (h : Runs session calls last)
    (horiented : session.tree.Oriented) :
    last.tree.Oriented ∧ Since session.tree (attachments calls) last.tree := by
  -- the induction is on the run; a closed block counts as one step from its opening
  induction h with
  | done session => exact ⟨horiented, .refl horiented.toSound⟩
  | @step session next last call calls hstep _ ih =>
      obtain ⟨hnext, hfirst⟩ := hstep.since horiented
      obtain ⟨hlast, hsecond⟩ := ih hnext
      have hcalls : attachments (call :: calls) = attachments [call] ++ attachments calls :=
        attachments_append [call] calls
      rw [hcalls]
      exact ⟨hlast, hfirst.trans hsecond horiented.toSound hnext⟩
  | @block session inside ended last call block calls more ending hopens _ _ ihbody ihrest =>
      obtain ⟨-, -, hentered⟩ := hopens.entered horiented
      obtain ⟨hended, hbody⟩ := ihbody hentered.oriented
      obtain ⟨hclosed, hfirst⟩ := hopens.since ending horiented hended hbody
      obtain ⟨hlast, hsecond⟩ := ihrest hclosed
      rw [attachments_block hopens.attachment?_eq_none]
      exact ⟨hlast, hfirst.trans hsecond horiented.toSound hclosed⟩

/-- Wherever a program is, the context of its session points into the tree. -/
theorem Reached.oriented {config : Config} {calls : List Call} {session : Session}
    (h : Reached config calls session) : session.tree.Oriented := by
  induction h with
  | start => exact .of_empty (Tree.sound_ofConvention _) rfl rfl
  | run _ hrun ih => exact (hrun.since ih).1
  | enter _ hopens ih => exact (hopens.entered ih).2.2.oriented

/-- Wherever a program is, its tree is a forest whose roots are the screens. -/
theorem Reached.forest {config : Config} {calls : List Call} {session : Session}
    (h : Reached config calls session) : session.tree.Forest :=
  h.oriented.toSound.isForest

/-- A session with one screen. -/
def homeSession : Session :=
  { Session.ofConfig {} with
    tree := (Session.ofConfig {}).tree.withScreen { kind := .screen, text := "Home" } }

theorem reached_home : Reached {} [.screen ⟨0⟩] homeSession := by
  have hscreen : (Session.ofConfig {}).tree.addScreen (.text "Home")
      = .ok (⟨0⟩, homeSession.tree) := rfl
  exact .run .start (.single (.screen hscreen))

/-- A session inside the block of a table. -/
def tableSession : Session :=
  { homeSession with
    tree := (homeSession.tree.insertChild ⟨0⟩
      (Node.ofArgs (.widget .table) .alphanumeric (.text "Form"))).2 }.enterContainer ⟨1⟩

/-- The block of the form in `tableSession`. -/
def tableBlock : OpenBlock where
  before := homeSession.tree.checkpoint
  node := ⟨1⟩
  scope := .container (some ⟨0⟩) []

theorem opens_table : Opens homeSession (.containerOpened ⟨1⟩) tableBlock tableSession := by
  have htable : homeSession.tree.appendWidget .table (.text "Form") homeSession.config.strictRows
      = .ok (⟨1⟩, (homeSession.tree.insertChild ⟨0⟩
          (Node.ofArgs (.widget .table) .alphanumeric (.text "Form"))).2) := rfl
  exact .container htable

/-- A session inside the block of a panel inside the block of a table. -/
def panelSession : Session :=
  { tableSession with
    tree := (tableSession.tree.insertChild ⟨1⟩
      (Node.ofArgs (.widget (.custom "panel")) .alphanumeric (.text "More"))).2 }.enterContainer ⟨2⟩

/-- The block of the panel in `panelSession`. -/
def panelBlock : OpenBlock where
  before := tableSession.tree.checkpoint
  node := ⟨2⟩
  scope := .container (some ⟨0⟩) [⟨1⟩]

theorem opens_panel : Opens tableSession (.containerOpened ⟨2⟩) panelBlock panelSession := by
  have hpanel : tableSession.tree.appendWidget (.custom "panel") (.text "More")
      tableSession.config.strictRows
      = .ok (⟨2⟩, (tableSession.tree.insertChild ⟨1⟩
          (Node.ofArgs (.widget (.custom "panel")) .alphanumeric (.text "More"))).2) := rfl
  exact .container hpanel

/-- The session with one more widget below a node. -/
def Session.withWidget (session : Session) (parent : NodeId) (kind : WidgetKind) (text : String) :
    Session :=
  { session with
    tree := (session.tree.insertChild parent
      (Node.ofArgs (.widget kind) .alphanumeric (.text text))).2 }

/-- The panel has failed behind a label.  What is left of both are their numbers, which are not
given out again. -/
def failedSession : Session :=
  { tableSession with tree := { tableSession.tree with next := 4 } }

theorem close_panelBlock :
    panelBlock.close .failed (panelSession.withWidget ⟨2⟩ .label "Name") = failedSession := by
  let grown := (panelSession.withWidget ⟨2⟩ .label "Name").tree.leave panelBlock.scope
  -- the label is found below the panel
  have hremoved : grown.remove ⟨2⟩ = failedSession.tree := by
    refine (if_pos (show grown.contains ⟨2⟩ = true from rfl)).trans ?_
    rw [Tree.forgetAll]
    show Tree.forgetAll _ [⟨3⟩] = _
    rw [Tree.forgetAll]
    show Tree.forgetAll _ [] = _
    rw [Tree.forgetAll]
    rfl
  have hrolled : grown.rollback panelBlock.before ⟨2⟩ = failedSession.tree := by
    refine (if_pos (show panelBlock.before.generation = grown.generation from rfl)).trans ?_
    rw [hremoved]
    rfl
  show { panelSession with tree := grown.rollback panelBlock.before ⟨2⟩ } = failedSession
  rw [hrolled]
  rfl

/-- A label has been attached to the screen by hand since, and another panel is open in the form. -/
def recoveredSession : Session :=
  let helped := failedSession.withWidget ⟨0⟩ .label "Help"
  (helped.withWidget ⟨1⟩ (.custom "panel") "Again").enterContainer ⟨5⟩

theorem forest_recovered :
    Reached {} [.screen ⟨0⟩, .containerOpened ⟨1⟩, .containerOpened ⟨2⟩, .widget ⟨3⟩,
        .closed .failed, .attached ⟨0⟩ ⟨4⟩, .containerOpened ⟨5⟩] recoveredSession ∧
      recoveredSession.tree.nodes.keys = [⟨5⟩, ⟨4⟩, ⟨1⟩, ⟨0⟩] ∧
      recoveredSession.tree.childrenOf ⟨0⟩ = [⟨1⟩, ⟨4⟩] ∧
      recoveredSession.tree.childrenOf ⟨1⟩ = [⟨5⟩] ∧
      recoveredSession.tree.Forest := by
  have hname : panelSession.tree.appendWidget .label (.text "Name") panelSession.config.strictRows
      = .ok (⟨3⟩, (panelSession.withWidget ⟨2⟩ .label "Name").tree) := rfl
  have hfailed : Runs tableSession
      [.containerOpened ⟨2⟩, .widget ⟨3⟩, .closed .failed] failedSession := by
    refine .block opens_panel (.single (.widget hname)) ?_
    show Runs
      (panelBlock.close .failed (panelSession.withWidget ⟨2⟩ .label "Name")) [] failedSession
    rw [close_panelBlock]
    exact .done failedSession
  have hhelp : failedSession.tree.addWidget ⟨0⟩ (.text "Help") .label
      = .ok (⟨4⟩, (failedSession.withWidget ⟨0⟩ .label "Help").tree) := rfl
  have hagain : (failedSession.withWidget ⟨0⟩ .label "Help").tree.appendWidget (.custom "panel")
      (.text "Again") failedSession.config.strictRows
      = .ok (⟨5⟩, ((failedSession.withWidget ⟨0⟩ .label "Help").withWidget ⟨1⟩ (.custom "panel")
          "Again").tree) := rfl
  have hreached := ((Reached.enter reached_home opens_table).run
    (hfailed.append (.single (.attached hhelp)))).enter (.container hagain)
  exact ⟨hreached, rfl, rfl, rfl, Reached.forest hreached⟩

end Storyboard
