import Storyboard.Node

/-!
# Where the next widget goes

The context of a tree knows the current screen and the containers that are open on it, innermost
first.  A declaration block enters a scope and leaves it again; what leaving does depends on what
the scope was entered for.
-/

namespace Storyboard

/-- The current screen and the open containers, innermost first. -/
structure Context where
  screen : Option NodeId := none
  containers : List NodeId := []
  deriving DecidableEq, Inhabited

/-- What leaving a block has to put back. -/
inductive Scope where
  | screen
  /-- The block of a container, with the current screen and the open containers before it. -/
  | container (screen : Option NodeId) (saved : List NodeId)
  deriving DecidableEq

namespace Context

/-- The innermost open container. -/
def container? (context : Context) : Option NodeId := context.containers.head?

def depth (context : Context) : Nat := context.containers.length

/-- The node that receives the next widget: the innermost container, or else the current screen. -/
def target? (context : Context) : Option NodeId := context.container? <|> context.screen

/-- Makes a screen current.  Every open container is closed. -/
def setScreen (_context : Context) (screen : NodeId) : Context :=
  { screen := some screen, containers := [] }

/-- The scope of a block on the current screen. -/
def enterScreen (context : Context) : Scope × Context :=
  (.screen, context)

/-- Opens a container for a block. -/
def enterContainer (context : Context) (container : NodeId) : Scope × Context :=
  (.container context.screen context.containers,
    { context with containers := container :: context.containers })

/-- Leaves a block.  The containers that were open before it are open again, unless the block was
that of a screen or another screen has become current meanwhile. -/
def leave (context : Context) : Scope → Context
  | .screen => { context with containers := [] }
  | .container screen saved =>
      if context.screen = screen then { context with containers := saved }
      else { context with containers := [] }

end Context

end Storyboard
