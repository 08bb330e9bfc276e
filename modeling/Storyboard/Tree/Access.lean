import Storyboard.Tree.Basic

/-!
# Reading a tree

Screens and children are read by position, screens also by title.  A position outside of the list is
an error that names it; a node that has left the tree has no children and no data, and never stands
for another node.
-/

namespace Storyboard

/-- The place that a position names in a list of the given length. -/
def Position.resolve (index : Int) (length : Nat) : Except Error Nat :=
  match index with
  | .ofNat place => if place < length then .ok place else .error (.indexOutOfRange index length)
  | .negSucc _ => .error (.indexOutOfRange index length)

/-- The element of a list at a position. -/
def Position.pick {α : Type} (list : List α) (index : Int) : Except Error α :=
  match Position.resolve index list.length with
  | .error error => .error error
  | .ok place =>
      match list[place]? with
      | none => .error (.indexOutOfRange index list.length)
      | some element => .ok element

/-- Which screen a presentation begins with. -/
inductive Selector where
  | first
  /-- The one at a position in the order of declaration. -/
  | index (place : Nat)
  | title (text : String)
  deriving DecidableEq

def Selector.describe : Selector → String
  | .first => "the first screen"
  | .index place => "index " ++ toString place
  | .title text => "title " ++ Text.quoted text

namespace Tree

variable {κ : Type}

def screenAt (tree : Tree κ) (index : Int) : Except Error NodeId :=
  Position.pick tree.screens index

/-- The child of a node at a position. -/
def widgetAt (tree : Tree κ) (parent : NodeId) (index : Int) : Except Error NodeId :=
  Position.pick (tree.childrenOf parent) index

def lastScreen? (tree : Tree κ) : Option NodeId := tree.screens.getLast?

/-- The text of a node, empty if it is not in the tree. -/
def textOf (tree : Tree κ) (id : NodeId) : String :=
  match tree.get? id with
  | none => ""
  | some node => node.text

def titles (tree : Tree κ) : List String := tree.screens.map tree.textOf

def screenWithTitle? (tree : Tree κ) (title : String) : Option NodeId :=
  tree.screens.find? fun screen => tree.textOf screen = title

/-- The node itself, if it is in the tree and a screen. -/
def asScreen? (tree : Tree κ) (id : NodeId) : Option NodeId :=
  match tree.get? id with
  | none => none
  | some node => if node.isScreen then some id else none

/-- The screen that a selector picks; none if the tree has no screens. -/
def select (tree : Tree κ) (selector : Selector) : Except Error (Option NodeId) :=
  if tree.screens.isEmpty then .ok none
  else
    let found : Option NodeId :=
      match selector with
      | .first => tree.screens.head?
      | .index place => tree.screens[place]?
      | .title text => tree.screenWithTitle? text
    match found with
    | some screen => .ok (some screen)
    | none => .error (.screenNotFound selector.describe)

end Tree

end Storyboard
