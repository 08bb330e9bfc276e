import Storyboard.Session.Basic
import Storyboard.Tree.Outline
import Storyboard.Tree.Walk

/-!
# Answers

What a step answers, and what is written into the journal about it.
-/

namespace Storyboard

/-- A node as it is seen from outside, with its children at a glance. -/
structure View where
  location : Location
  node : Node Callback
  /-- The type and the id of each child. -/
  children : List (String × String)

/-- The view of a node that is in the tree. -/
def Tree.view? (tree : Tree Callback) (id : NodeId) : Option View :=
  match tree.get? id with
  | none => none
  | some node =>
      some
        { location := tree.locate id
          node := node
          children := (tree.childrenOf id).filterMap fun child =>
            (tree.get? child).map fun node => (node.typeName, node.id) }

/-- What a recording presenter keeps of a presentation. -/
structure PresentationRecord where
  entry : Option String
  title : Option String
  outline : String

/-- What a step answers. -/
inductive Answer where
  | nothing
  | flag (value : Bool)
  | text (value : String)
  | texts (values : List String)
  | declared (location : Location)
  | location (place : Option Location)
  | locations (places : List Location)
  | node (data : Option (Node Callback))
  | view (seen : Option View)
  | screen (seen : View)
  | widget (seen : View) (parent : Option Location) (text : Except Error String)
  | config (config : Config)
  | replaced (value : Bool)
  | taken (value : Bool)
  | selection (description : String) (place : Option Location)
  | records (kept : Option (List PresentationRecord))
  | failed (error : Error)
  | panicked (message : String)

/-- What can be seen of a session between two steps. -/
structure Glimpse where
  outline : String
  size : Nat
  isEmpty : Bool
  screens : Nat
  screen : Option Location
  container : Option Location
  target : Option Location
  depth : Nat
  hasPresenter : Bool

/-- What can be seen of a session now. -/
def Session.glimpse (session : Session) : Glimpse :=
  let tree := session.tree
  { outline := tree.outline
    size := tree.size
    isEmpty := tree.isEmpty
    screens := tree.screens.length
    screen := tree.context.screen.map tree.locate
    container := tree.context.container?.map tree.locate
    target := tree.context.target?.map tree.locate
    depth := tree.context.depth
    hasPresenter := session.presenter.isSome }

/-- A line of the journal. -/
structure Entry where
  place : Place
  /-- What the step is called. -/
  name : String
  answer : Answer
  events : List String
  /-- The session after the step; left out where the journal is quiet. -/
  glimpse : Option Glimpse

end Storyboard
