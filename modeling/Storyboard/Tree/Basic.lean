import Storyboard.Args
import Storyboard.Error
import Storyboard.Tree.Context
import Storyboard.Tree.Registry

/-!
# The tree of a storyboard

Screens stand in the order of their declaration, and every widget stands below a screen or another
widget.  The tree keeps the nodes, the children of each node in order, and the parent of each widget
apart from each other; its context says where the next widget goes.
-/

namespace Storyboard

/-- The screens and widgets declared so far.  The type `κ` is that of what is done on a click. -/
structure Tree (κ : Type) where
  nodes : Registry (Node κ) := .empty
  children : Registry (List NodeId) := .empty
  parents : Registry NodeId := .empty
  screens : List NodeId := []
  context : Context := {}
  convention : IdConvention := .alphanumeric
  /-- How often the tree has been cleared. -/
  generation : Nat := 0
  next : Nat := 0

namespace Tree

variable {κ : Type}

instance : Inhabited (Tree κ) := ⟨{}⟩

/-- The tree with no nodes that derives ids by the given convention. -/
def ofConvention (convention : IdConvention) : Tree κ := { convention := convention }

/-! ## Single nodes -/

/-- The node with the given name, if it is in the tree. -/
def get? (tree : Tree κ) (id : NodeId) : Option (Node κ) := tree.nodes.get? id

def contains (tree : Tree κ) (id : NodeId) : Bool := tree.nodes.contains id

def size (tree : Tree κ) : Nat := tree.nodes.size

def isEmpty (tree : Tree κ) : Bool := tree.nodes.entries.isEmpty

/-- The node that a widget stands below. -/
def parent? (tree : Tree κ) (id : NodeId) : Option NodeId := tree.parents.get? id

/-- The children of a node in order; none if the node is not in the tree. -/
def childrenOf (tree : Tree κ) (id : NodeId) : List NodeId := (tree.children.get? id).getD []

/-- Changes a node in place. -/
def modify (tree : Tree κ) (id : NodeId) (change : Node κ → Node κ) : Tree κ :=
  { tree with nodes := tree.nodes.modify id change }

/-! ## Growing -/

/-- Adds a node that stands nowhere yet. -/
def insert (tree : Tree κ) (node : Node κ) : NodeId × Tree κ :=
  let id : NodeId := ⟨tree.next⟩
  (id, { tree with
    nodes := tree.nodes.add id node
    children := tree.children.add id []
    next := tree.next + 1 })

/-- Adds a node as the last child of another. -/
def insertChild (tree : Tree κ) (parent : NodeId) (node : Node κ) : NodeId × Tree κ :=
  let (id, grown) := tree.insert node
  (id, { grown with
    parents := grown.parents.add id parent
    children := grown.children.modify parent (· ++ [id]) })

/-- Adds a screen after the others and makes it current.  A screen needs a title. -/
def addScreen (tree : Tree κ) (args : Args κ) : Except Error (NodeId × Tree κ) :=
  let node := Node.ofArgs .screen tree.convention args
  if node.text.isEmpty then
    .error (.invalidArguments "screen requires a title")
  else
    let (id, grown) := tree.insert node
    .ok (id, { grown with
      screens := grown.screens ++ [id]
      context := grown.context.setScreen id })

/-- Adds a widget below a given node, wherever the context points. -/
def addWidget (tree : Tree κ) (parent : NodeId) (args : Args κ) (kind : WidgetKind) :
    Except Error (NodeId × Tree κ) :=
  if tree.contains parent then
    .ok (tree.insertChild parent (Node.ofArgs (.widget kind) tree.convention args))
  else
    .error .unknownNode

/-- The node that a widget of the given kind is to stand below: the innermost open container, or
else the current screen.  With `strictRows`, a row outside of every container is refused. -/
def destination (tree : Tree κ) (kind : WidgetKind) (strictRows : Bool) : Except Error NodeId :=
  match tree.context.screen with
  | none => .error (.screenRequired kind.name)
  | some screen =>
      match tree.context.container? with
      | some container => .ok container
      | none =>
          if kind = .row ∧ strictRows = true then .error (.containerRequired kind.name)
          else .ok screen

/-- Adds a widget where the context points. -/
def appendWidget (tree : Tree κ) (kind : WidgetKind) (args : Args κ) (strictRows : Bool) :
    Except Error (NodeId × Tree κ) :=
  match tree.destination kind strictRows with
  | .error error => .error error
  | .ok parent =>
      .ok (tree.insertChild parent (Node.ofArgs (.widget kind) tree.convention args))

/-! ## Clearing -/

/-- Removes every node.  The convention is kept. -/
def clear (tree : Tree κ) : Tree κ :=
  { convention := tree.convention, generation := tree.generation + 1, next := tree.next }

end Tree

end Storyboard
