import Storyboard.Session.Act
import Storyboard.Tree.Removal

/-!
# Keywords

The keywords that declare a storyboard, in two forms.  The exclusive form holds the session from the
beginning of a keyword to the end of its block, and presents the tree in place.  The ambient form
holds the session only while it looks at it: between entering and leaving a block, and while the
tree is presented, others may use the session too, so the presenter is taken out and works on the
tree as it was.
-/

namespace Storyboard

open Act

/-- The keywords of one form. -/
structure Engine where
  screen : Args Callback → Act NodeId
  /-- Declares a screen and runs a block with it as the current one. -/
  screenBlock : Args Callback → Act Unit → Act NodeId
  widget : WidgetKind → Args Callback → Act NodeId
  /-- Declares a widget and runs a block with it as the innermost open container. -/
  containerBlock : WidgetKind → Args Callback → Act Unit → Act NodeId
  /-- Hands the tree to the installed presenter; the first argument is how a presenter works. -/
  present : (Presenter → Presentation → Act Unit) → Selector → Act Unit

/-- Adds a widget where the context points and gives it its behaviour. -/
def declareWidget (kind : WidgetKind) (args : Args Callback) : Act NodeId := do
  let strictRows := (← session).config.strictRows
  let id ← growTree fun tree => tree.appendWidget kind args strictRows
  changeSession (·.bindNode id)
  return id

def leaveScope (scope : Scope) : Act Unit :=
  changeTree fun tree => { tree with context := tree.context.leave scope }

def enterScope (enter : Context → Scope × Context) : Act Scope := do
  let (scope, context) := enter (← session).tree.context
  changeTree fun tree => { tree with context := context }
  return scope

/-! ## The exclusive form -/

namespace Exclusive

/-- Runs a block inside a scope, which is left however the block ends. -/
def guarded (enter : Context → Scope × Context) (body : Act Unit) : Act (Except Halt Unit) := do
  let scope ← enterScope enter
  let outcome ← attempt body
  leaveScope scope
  return outcome

/-- Settles the outcome of a block: a failure undoes the declaration, and a panic goes on. -/
def settle (before : Tree.Checkpoint) (id : NodeId) : Except Halt Unit → Act NodeId
  | .ok () => return id
  | .error (.failed error) => do
      changeTree (·.rollback before id)
      fail error
  | .error halt => throw halt

/-- Declares a screen and runs a block with it as the current one. -/
def screenBlock (args : Args Callback) (body : Act Unit) : Act NodeId := do
  let before := (← session).tree.checkpoint
  let id ← growTree (·.addScreen args)
  let outcome ← guarded Context.enterScreen body
  settle before id outcome

/-- Declares a container and runs a block inside it. -/
def containerBlock (kind : WidgetKind) (args : Args Callback) (body : Act Unit) : Act NodeId := do
  let before := (← session).tree.checkpoint
  let id ← declareWidget kind args
  let outcome ← guarded (·.enterContainer id) body
  settle before id outcome

/-- Presents the tree in place. -/
def present (run : Presenter → Presentation → Act Unit) (selector : Selector) : Act Unit := do
  let session ← session
  match session.presenter with
  | none => fail .presenterUnavailable
  | some presenter =>
      let entry ← ofExcept (session.tree.select selector)
      run presenter { tree := session.tree, entry := entry, title := session.config.title }

end Exclusive

/-- The keywords that hold the session throughout. -/
def Engine.exclusive : Engine where
  screen args := growTree (·.addScreen args)
  screenBlock := Exclusive.screenBlock
  widget := declareWidget
  containerBlock := Exclusive.containerBlock
  present := Exclusive.present

/-! ## The ambient form -/

namespace Ambient

/-- Runs a block whose scope has been entered already, leaves the scope, and undoes the declaration
if the block failed. -/
def runBlock (before : Tree.Checkpoint) (id : NodeId) (scope : Scope) (body : Act Unit) :
    Act NodeId := do
  match ← attempt body with
  | .ok () =>
      leaveScope scope
      return id
  | .error (.failed error) =>
      leaveScope scope
      changeTree (·.rollback before id)
      fail error
  | .error halt =>
      leaveScope scope
      throw halt

/-- Declares a screen and runs a block with it as the current one. -/
def screenBlock (args : Args Callback) (body : Act Unit) : Act NodeId := do
  let before := (← session).tree.checkpoint
  let id ← growTree (·.addScreen args)
  let scope ← enterScope Context.enterScreen
  runBlock before id scope body

/-- Declares a container and runs a block inside it. -/
def containerBlock (kind : WidgetKind) (args : Args Callback) (body : Act Unit) : Act NodeId := do
  let before := (← session).tree.checkpoint
  let id ← declareWidget kind args
  let scope ← enterScope (·.enterContainer id)
  runBlock before id scope body

/-- Takes the presenter out, has it present the tree as it is now, and puts it back.  If the
presentation panics, the presenter is lost. -/
def present (run : Presenter → Presentation → Act Unit) (selector : Selector) : Act Unit := do
  let before ← session
  match before.presenter with
  | none => fail .presenterUnavailable
  | some presenter =>
      let entry ← ofExcept (before.tree.select selector)
      changeSession (·.uninstall)
      let presentation : Presentation :=
        { tree := before.tree, entry := entry, title := before.config.title }
      match ← attempt (run presenter presentation) with
      | .ok () => changeSession (·.restore presenter before.tree)
      | .error (.failed error) =>
          changeSession (·.restore presenter before.tree)
          fail error
      | .error halt => throw halt

end Ambient

/-- The keywords that hold the session only while they look at it. -/
def Engine.ambient : Engine where
  screen args := growTree (·.addScreen args)
  screenBlock := Ambient.screenBlock
  widget := declareWidget
  containerBlock := Ambient.containerBlock
  present := Ambient.present

end Storyboard
