import Storyboard.Style.Declaration

/-!
# Nodes

A storyboard is made of screens and of the widgets on them; both are nodes.  A node carries its
kind, an id, a text (the title of a screen), a style, possibly something to do when it is clicked,
and a handle through which its behaviour can be reached.  What is done on a click is a parameter of
the type.
-/

namespace Storyboard

/-- The name of a node in a tree.  Numbers are given out once and never again. -/
structure NodeId where
  number : Nat
  deriving DecidableEq, Inhabited, Repr

/-- The kind of a widget. -/
inductive WidgetKind where
  | label
  | textbox
  | passwordField
  | button
  | table
  | row
  | custom (name : String)
  deriving DecidableEq, Inhabited

namespace WidgetKind

/-- The type name of a kind, which is also the keyword that declares it. -/
def name : WidgetKind → String
  | .label => "label"
  | .textbox => "textbox"
  | .passwordField => "passwordfield"
  | .button => "button"
  | .table => "table"
  | .row => "row"
  | .custom name => name

/-- The kind with a type name. -/
def ofName (name : String) : WidgetKind :=
  if name = "label" then .label
  else if name = "textbox" then .textbox
  else if name = "passwordfield" then .passwordField
  else if name = "button" then .button
  else if name = "table" then .table
  else if name = "row" then .row
  else .custom name

/-- Which of the kinds it is, without the name of a custom one. -/
def variant : WidgetKind → String
  | .label => "Label"
  | .textbox => "Textbox"
  | .passwordField => "PasswordField"
  | .button => "Button"
  | .table => "Table"
  | .row => "Row"
  | .custom _ => "Custom"

def inspect : WidgetKind → Text.Inspect
  | .custom name => .applied "Custom" [.text name]
  | kind => .word kind.variant

end WidgetKind

/-- Whether a node is a screen or a widget. -/
inductive NodeKind where
  | screen
  | widget (kind : WidgetKind)
  deriving DecidableEq, Inhabited

namespace NodeKind

/-- The type name of a node of the kind. -/
def name : NodeKind → String
  | .screen => "screen"
  | .widget kind => kind.name

/-- Whether the kind is that of screens. -/
def isScreen : NodeKind → Bool
  | .screen => true
  | .widget _ => false

/-- Which of the kinds it is. -/
def variant : NodeKind → String
  | .screen => "Screen"
  | .widget kind => kind.variant

def inspect : NodeKind → Text.Inspect
  | .screen => .word "Screen"
  | .widget kind => .applied "Widget" [kind.inspect]

end NodeKind

/-- How a node behaves once the storyboard is presented.  The type `κ` is that of what is done on a
click. -/
inductive Handle (κ : Type) where
  | unbound
  /-- The node shows the text it had, and a click does what the node said. -/
  | recorded (text : String) (onClick : Option κ)
  /-- The node shows and reports its text under the tag of its presenter. -/
  | tagged (tag text : String)

/-- A screen or a widget. -/
structure Node (κ : Type) where
  kind : NodeKind
  id : String := ""
  text : String := ""
  style : Style := .empty
  onClick : Option κ := none
  handle : Handle κ := .unbound

namespace Node

variable {κ : Type}

/-- The type name of a node. -/
def typeName (node : Node κ) : String := node.kind.name

/-- Whether the node is a screen. -/
def isScreen (node : Node κ) : Bool := node.kind.isScreen

/-- A node on one line: its type, its id after a hash, its text in quotes and its style in braces,
each of the last three only when there is one. -/
def line (node : Node κ) : String :=
  node.typeName
    ++ (if node.id.isEmpty then "" else "#" ++ node.id)
    ++ (if node.text.isEmpty then "" else " " ++ Text.quoted node.text)
    ++ (if node.style.isEmpty then "" else " \x7b" ++ node.style.render ++ "\x7d")

/-- How something to do on a click is shown: that it is there. -/
def inspectOnClick (onClick : Option κ) : Text.Inspect :=
  .optional (onClick.map fun _ => .text "Fn()")

/-- The node laid open for inspection.  The handle is left out. -/
def inspect (node : Node κ) : Text.Inspect :=
  .record "NodeData"
    [("kind", node.kind.inspect), ("id", .text node.id), ("text", .text node.text),
      ("style", node.style.inspect), ("onclick", inspectOnClick node.onClick)] true

end Node

end Storyboard
