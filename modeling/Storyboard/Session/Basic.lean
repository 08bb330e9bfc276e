import Storyboard.Script.Basic

/-!
# Sessions

A session has a tree under construction, possibly a presenter, and its configuration.  While a
presenter is installed, widgets get their behaviour from it: those that are there when it is
installed, and every later one when it is declared.
-/

namespace Storyboard

/-- What is done on a click, together with the place where it was declared. -/
structure Callback where
  log : String
  steps : List Step
  place : Place

/-- That which presents a finished storyboard and gives widgets their behaviour. -/
structure Presenter where
  kind : PresenterKind
  tag : String
  failure : Option String
  steps : List Step
  /-- The behaviour for a node that has none. -/
  behaviour : Node Callback → Handle Callback
  place : Place

/-- The behaviour that a presenter gives to a node, whatever behaviour the node has already. -/
def Presenter.bind (presenter : Presenter) (node : Node Callback) : Handle Callback :=
  presenter.behaviour { node with handle := .unbound }

/-- A tree under construction with its presenter and configuration. -/
structure Session where
  tree : Tree Callback
  presenter : Option Presenter
  config : Config

namespace Session

/-- A session with an empty tree and no presenter. -/
def ofConfig (config : Config) : Session :=
  { tree := .ofConvention config.convention, presenter := none, config := config }

/-- Gives a node the behaviour that a presenter has for it. -/
def rebind (presenter : Presenter) (node : Node Callback) : Node Callback :=
  { node with handle := presenter.bind node }

/-- Gives the nodes that pass a test their behaviour, screens excepted. -/
def rebindAll (presenter : Presenter) (which : NodeId → Bool) (tree : Tree Callback) :
    Tree Callback :=
  { tree with
    nodes := tree.nodes.mapValues fun id node =>
      if !node.isScreen && which id then rebind presenter node else node }

/-- Installs a presenter: every widget gets its behaviour anew. -/
def install (session : Session) (presenter : Presenter) : Session :=
  { session with
    tree := rebindAll presenter (fun _ => true) session.tree
    presenter := some presenter }

/-- Takes the presenter away.  Widgets keep the behaviour they have. -/
def uninstall (session : Session) : Session :=
  { session with presenter := none }

/-- Puts back a presenter that was away for a presentation, unless another has been installed
meanwhile.  Widgets that were not in the tree `before` get their behaviour now. -/
def restore (session : Session) (presenter : Presenter) (before : Tree Callback) : Session :=
  match session.presenter with
  | some _ => session
  | none =>
      { session with
        tree := rebindAll presenter (fun id => !before.contains id) session.tree
        presenter := some presenter }

/-- Gives one node its behaviour, if a presenter is installed. -/
def bindNode (session : Session) (id : NodeId) : Session :=
  match session.presenter with
  | none => session
  | some presenter => { session with tree := session.tree.modify id (rebind presenter) }

/-- The handle of a node. -/
def handleOf (session : Session) (id : NodeId) : Except Error (Handle Callback) :=
  match session.tree.get? id with
  | none => .error .unknownNode
  | some node => .ok node.handle

/-- Clears the tree.  The presenter stays. -/
def reset (session : Session) : Session :=
  { session with tree := session.tree.clear }

end Session

/-- The text that a handle shows. -/
def Handle.read {κ : Type} : Handle κ → Except Error String
  | .unbound => .error (.notImplemented .text)
  | .recorded text _ => .ok text
  | .tagged tag text => .ok (tag ++ ":" ++ text)

/-- What happens on a click. -/
inductive Press (κ : Type) where
  | nothing
  /-- What the node said is to be done. -/
  | reaction (onClick : κ)
  | report (event : String)

/-- What a click on a handle does. -/
def Handle.press {κ : Type} : Handle κ → Except Error (Press κ)
  | .unbound => .error (.notImplemented .click)
  | .recorded _ none => .ok .nothing
  | .recorded _ (some onClick) => .ok (.reaction onClick)
  | .tagged tag text => .ok (.report ("click " ++ tag ++ ":" ++ text))

/-- What a presenter is handed. -/
structure Presentation where
  tree : Tree Callback
  /-- The screen to begin with, none if there are no screens. -/
  entry : Option NodeId
  title : Option String

/-- The title of the screen to begin with, if it is still a screen. -/
def Presentation.entryTitle (presentation : Presentation) : Option String :=
  match presentation.entry with
  | none => none
  | some id => (presentation.tree.asScreen? id).map presentation.tree.textOf

end Storyboard
