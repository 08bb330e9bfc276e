import Storyboard.Tree.Location

/-!
# Scripts

A script is a list of steps that declare, change, present and read a storyboard.  Steps nest: a
declaration may have a block of steps, a widget may carry steps for when it is clicked, and so may
that which presents the storyboard.  `Action` is written over an arbitrary type of steps, and `Step`
closes the circle.
-/

namespace Storyboard

/-- A style as it is given in a script. -/
inductive StyleSource where
  | text (declarations : String)
  /-- As pairs, of which a later one wins. -/
  | pairs (entries : List (String × String))

/-- The style that is given, if it can be read. -/
def StyleSource.read : StyleSource → Except StyleError Style
  | .text declarations => Style.parse declarations
  | .pairs entries => .ok (Style.ofList entries)

/-- What is done on a click: a line in the log, and steps of type `σ`. -/
structure Reaction (σ : Type) where
  log : String
  steps : List σ

/-- The arguments of a declaration as they are given in a script. -/
inductive Draft (σ : Type) where
  | text (value : String)
  | attributes (id text : Option String) (style : Option StyleSource)
      (onClick : Option (Reaction σ))

/-- Kinds of what can present a storyboard. -/
inductive PresenterKind where
  /-- Keeps a record of each presentation. -/
  | recording
  /-- Reports each presentation and gives widgets no behaviour. -/
  | reporting
  /-- Runs steps for each presentation. -/
  | scripted
  deriving DecidableEq

/-- A presenter as it is given in a script. -/
structure PresenterDraft (σ : Type) where
  kind : PresenterKind
  tag : String
  /-- The reason with which each presentation fails, if it does. -/
  failure : Option String
  steps : List σ
  isUnbound : Bool

/-- Changes to the fields of a node; a field that is not given stays. -/
structure Changes where
  id : Option String
  text : Option String
  style : Option StyleSource
  kind : Option NodeKind

/-- Questions about a storyboard and its session. -/
inductive Query where
  | config
  | resolve (selector : Selector)
  /-- What has the recording presenter with the tag recorded? -/
  | records (tag : String)
  | screenAt (index : Int)
  | widgetAt (parent : Reference) (index : Int)
  | widgetOnScreen (screen index : Int)
  | lastScreen
  | screenWithTitle (title : String)
  | screenNamed (node : Reference)
  | titles
  | node (node : Reference)
  | contains (node : Reference)
  | parent (node : Reference)
  | children (node : Reference)
  | outlineFrom (node : Reference)
  | walk
  | walkFrom (node : Reference)
  | withId (id : String)
  | withType (typeName : String)
  /-- Which nodes have a text that contains the given one? -/
  | withText (part : String)
  /-- Which nodes have a style with the property? -/
  | withProperty (property : String)

/-- What one step does. -/
inductive Action (σ : Type) where
  | screen (args : Draft σ)
  | widget (kind : WidgetKind) (args : Draft σ)
  | screenBlock (args : Draft σ) (body : List σ)
  /-- Declares a widget with a block of what goes into it. -/
  | containerBlock (kind : WidgetKind) (args : Draft σ) (body : List σ)
  /-- Declares containers inside each other, their texts counted, and a block in the innermost. -/
  | nest (kind : WidgetKind) (label : String) (depth : Nat) (body : List σ)
  /-- Adds a screen to the tree without regard to what presents it. -/
  | addScreen (args : Draft σ)
  /-- Adds a widget below a given node, without regard to what presents it. -/
  | addWidget (parent : Reference) (kind : WidgetKind) (args : Draft σ)
  /-- Adds a widget where the context points, without regard to what presents it. -/
  | appendWidget (kind : WidgetKind) (args : Draft σ) (strictRows : Bool)
  | edit (node : Reference) (changes : Changes)
  | reset
  | setConvention (convention : IdConvention)
  | fail (reason : String)
  | panic (message : String)
  | group (body : List σ)
  /-- Runs a block and goes on if it panics. -/
  | catchPanic (body : List σ)
  /-- Runs a block that holds the session for itself. -/
  | exclusively (body : List σ)
  /-- Installs a presenter in place of the present one. -/
  | install (presenter : PresenterDraft σ)
  | uninstall
  | present (selector : Selector)
  | click (node : Reference)
  | readText (node : Reference)
  /-- Does directly what a node says is done on a click. -/
  | react (node : Reference)
  | ask (query : Query)

/-- A step of a script. -/
structure Step where
  /-- What the step is called in the journal. -/
  name : String
  /-- The name to give to the node that the step declares. -/
  binding : Option String
  /-- Whether the block goes on after the step fails. -/
  isTolerant : Bool
  action : Action Step

/-! ## Places -/

/-- One part of the way to a step. -/
inductive Hop where
  | step (index : Nat)
  /-- From a declaration to what it says is done on a click. -/
  | onClick
  /-- From the installation of a presenter to its steps. -/
  | run
  deriving DecidableEq

/-- Where a step stands in a script, the last part of the way first. -/
abbrev Place := List Hop

/-- The written form of a place. -/
def Place.render : Place → String
  | [] => ""
  | [.step index] => toString index
  | .step index :: rest => render rest ++ "." ++ toString index
  | .onClick :: rest => render rest ++ "/onclick"
  | .run :: rest => render rest ++ "/run"

end Storyboard
