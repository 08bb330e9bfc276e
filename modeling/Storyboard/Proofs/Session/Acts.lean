import Storyboard.Proofs.Session.Runs
import Storyboard.Script.Run

/-!
# Carrying out acts

`Act.exec` carries out an act in a world.  There is one equation for each way in which acts are made
and for each of the acts that declare nodes, so that nothing else has to know what a transformer is.
The block keywords of both forms come down to the same thing (`exec_screenBlock`,
`exec_containerBlock`): the block is opened, carried out, and closed according to how it ended.
-/

namespace Storyboard

variable {α β : Type}

/-- Carries out an act: how it ends, and the world afterwards. -/
def Act.exec (act : Act α) (world : World) : Except Halt α × World := act.run.run world

namespace Act

variable (world : World)

theorem exec_bind (act : Act α) (next : α → Act β) :
    exec (act >>= next) world =
      match act.exec world with
      | (.ok value, after) => (next value).exec after
      | (.error halt, after) => (.error halt, after) := by
  change (ExceptT.bindCont next (act.exec world).1).run (act.exec world).2 = _
  obtain ⟨outcome, after⟩ := act.exec world
  cases outcome with
  | ok value => rfl
  | error halt => rfl

theorem exec_bind_ok {act : Act α} {next : α → Act β} {world after : World} {value : α}
    (h : act.exec world = (.ok value, after)) :
    exec (act >>= next) world = (next value).exec after := by
  rw [exec_bind, h]

@[simp] theorem exec_attempt (act : Act α) :
    exec (attempt act) world = (.ok (act.exec world).1, (act.exec world).2) := rfl

@[simp] theorem exec_session : exec session world = (.ok world.session, world) := rfl

theorem exec_ofExcept (outcome : Except Error α) :
    exec (ofExcept outcome) world =
      match outcome with
      | .ok value => (.ok value, world)
      | .error error => (.error (.failed error), world) := by
  cases outcome with
  | ok value => rfl
  | error error => rfl

theorem exec_growTree (grow : Tree Callback → Except Error (NodeId × Tree Callback)) :
    exec (growTree grow) world =
      match grow world.session.tree with
      | .ok (id, grown) =>
          (.ok id, { world with session := { world.session with tree := grown } })
      | .error error => (.error (.failed error), world) := by
  change exec (ofExcept (grow world.session.tree) >>= fun grown => do
    changeTree fun _ => grown.2
    return grown.1) world = _
  rw [exec_bind, exec_ofExcept]
  cases grow world.session.tree with
  | ok grown => rfl
  | error error => rfl

theorem exec_declareWidget (kind : WidgetKind) (args : Args Callback) :
    exec (declareWidget kind args) world =
      match world.session.tree.appendWidget kind args world.session.config.strictRows with
      | .ok (id, grown) =>
          (.ok id, { world with session := { world.session with tree := grown }.bindNode id })
      | .error error => (.error (.failed error), world) := by
  -- the node is bound only if the tree took it
  unfold declareWidget
  rw [exec_bind_ok (exec_session world), exec_bind, exec_growTree]
  split
  · next h =>
      split at h
      · cases h
        rfl
      · cases h
  · next h =>
      split at h
      · cases h
      · cases h
        rfl

end Act

/-! ## Blocks -/

/-- How a block ends whose outcome this is. -/
def Ending.of : Except Halt α → Ending
  | .ok _ => .returned
  | .error (.failed _) => .failed
  | .error _ => .panicked

open Act in
/-- Declares a node and enters the scope of its block. -/
def openWith (declare : Act NodeId) (enter : NodeId → Context → Scope × Context) :
    Act OpenBlock := do
  let before := (← session).tree.checkpoint
  let id ← declare
  let scope ← enterScope (enter id)
  return { before := before, node := id, scope := scope }

open Act in
/-- Opens the block of a new screen. -/
def openScreen (args : Args Callback) : Act OpenBlock :=
  openWith (growTree (·.addScreen args)) fun _ => Context.enterScreen

/-- Opens the block of a new container. -/
def openContainer (kind : WidgetKind) (args : Args Callback) : Act OpenBlock :=
  openWith (declareWidget kind args) fun id context => context.enterContainer id

open Act in
/-- Opens a block, carries it out, and closes it. -/
def withBlock (opening : Act OpenBlock) (body : Act Unit) : Act NodeId := do
  let block ← opening
  let outcome ← attempt body
  changeSession (block.close (.of outcome))
  match outcome with
  | .ok () => return block.node
  | .error halt => throw halt

namespace Act

variable (world : World)

theorem exec_enterScope (enter : Context → Scope × Context) :
    exec (enterScope enter) world =
      (.ok (enter world.session.tree.context).1,
        { world with session := { world.session with tree := { world.session.tree with
          context := (enter world.session.tree.context).2 } } }) := rfl

theorem exec_openWith (declare : Act NodeId) (enter : NodeId → Context → Scope × Context) :
    exec (openWith declare enter) world =
      match declare.exec world with
      | (.ok id, after) =>
          (.ok { before := world.session.tree.checkpoint, node := id,
                 scope := (enter id after.session.tree.context).1 },
            { after with session := { after.session with tree := { after.session.tree with
              context := (enter id after.session.tree.context).2 } } })
      | (.error halt, after) => (.error halt, after) := by
  unfold openWith
  rw [exec_bind_ok (exec_session world), exec_bind]
  obtain ⟨declared, after⟩ := declare.exec world
  cases declared with
  | ok id => rfl
  | error halt => rfl

theorem exec_openScreen (args : Args Callback) :
    exec (openScreen args) world =
      match world.session.tree.addScreen args with
      | .ok (id, grown) =>
          (.ok { before := world.session.tree.checkpoint, node := id, scope := .screen },
            { world with session := { world.session with tree := grown } })
      | .error error => (.error (.failed error), world) := by
  unfold openScreen
  rw [exec_openWith, exec_growTree]
  cases world.session.tree.addScreen args with
  | ok added => rfl
  | error error => rfl

theorem exec_openContainer (kind : WidgetKind) (args : Args Callback) :
    exec (openContainer kind args) world =
      match world.session.tree.appendWidget kind args world.session.config.strictRows with
      | .ok (id, grown) =>
          (.ok { before := world.session.tree.checkpoint, node := id,
                 scope := .container grown.context.screen grown.context.containers },
            { world with
              session := ({ world.session with tree := grown }.bindNode id).enterContainer id })
      | .error error => (.error (.failed error), world) := by
  unfold openContainer
  rw [exec_openWith, exec_declareWidget]
  cases world.session.tree.appendWidget kind args world.session.config.strictRows with
  | ok added =>
      -- giving the container its behaviour does not change the context
      have hshape := Session.shape_bindNode { world.session with tree := added.2 } added.1
      have hcontext := hshape.context_eq
      dsimp only at hcontext ⊢
      rw [← hcontext]
      rfl
  | error error => rfl

theorem exec_withBlock (opening : Act OpenBlock) (body : Act Unit) :
    exec (withBlock opening body) world =
      match opening.exec world with
      | (.error halt, after) => (.error halt, after)
      | (.ok block, inside) =>
          let (outcome, ended) := body.exec inside
          (outcome.map fun _ => block.node,
            { ended with session := block.close (.of outcome) ended.session }) := by
  unfold withBlock
  rw [exec_bind]
  obtain ⟨opened, inside⟩ := opening.exec world
  cases opened with
  | error halt => rfl
  | ok block =>
      dsimp only
      -- the body is tried, so the closing is reached however it ends
      rw [exec_bind_ok (exec_attempt inside body)]
      obtain ⟨outcome, ended⟩ := body.exec inside
      cases outcome with
      | ok value => rfl
      | error halt => rfl

/-! ## The keywords of both forms -/

section Forms

variable (declare : Act NodeId) (enter : NodeId → Context → Scope × Context) (body : Act Unit)

/-- A block in the exclusive form. -/
theorem exec_guarded :
    exec (do
        let before := (← session).tree.checkpoint
        let id ← declare
        let outcome ← Exclusive.guarded (enter id) body
        Exclusive.settle before id outcome) world
      = exec (withBlock (openWith declare enter) body) world := by
  rw [exec_withBlock, exec_openWith, exec_bind_ok (exec_session world), exec_bind]
  obtain ⟨declared, after⟩ := declare.exec world
  cases declared with
  | error halt => rfl
  | ok id =>
      dsimp only
      unfold Exclusive.guarded
      rw [exec_bind, exec_bind_ok (exec_enterScope after _), exec_bind_ok (exec_attempt _ body)]
      -- however the block ends, its scope is left next
      obtain ⟨outcome, ended⟩ := body.exec _
      cases outcome with
      | ok value => rfl
      | error halt => cases halt <;> rfl

/-- A block in the ambient form. -/
theorem exec_runBlock :
    exec (do
        let before := (← session).tree.checkpoint
        let id ← declare
        let scope ← enterScope (enter id)
        Ambient.runBlock before id scope body) world
      = exec (withBlock (openWith declare enter) body) world := by
  rw [exec_withBlock, exec_openWith, exec_bind_ok (exec_session world), exec_bind]
  obtain ⟨declared, after⟩ := declare.exec world
  cases declared with
  | error halt => rfl
  | ok id =>
      dsimp only
      unfold Ambient.runBlock
      rw [exec_bind_ok (exec_enterScope after _), exec_bind_ok (exec_attempt _ body)]
      -- the scope is left on every path, and the tree is rolled back on a failure only
      obtain ⟨outcome, ended⟩ := body.exec _
      cases outcome with
      | ok value => rfl
      | error halt => cases halt <;> rfl

end Forms

/-- A screen without a block, in either form. -/
theorem exec_screen (mode : Mode) (args : Args Callback) :
    exec (mode.engine.screen args) world
      = match world.session.tree.addScreen args with
        | .ok (id, grown) =>
            (.ok id, { world with session := { world.session with tree := grown } })
        | .error error => (.error (.failed error), world) := by
  cases mode <;> exact exec_growTree world (·.addScreen args)

/-- A widget without a block, in either form. -/
theorem exec_widget (mode : Mode) (kind : WidgetKind) (args : Args Callback) :
    exec (mode.engine.widget kind args) world
      = match world.session.tree.appendWidget kind args world.session.config.strictRows with
        | .ok (id, grown) =>
            (.ok id, { world with session := { world.session with tree := grown }.bindNode id })
        | .error error => (.error (.failed error), world) := by
  cases mode <;> exact exec_declareWidget world kind args

/-- A screen with a block, in either form. -/
theorem exec_screenBlock (mode : Mode) (args : Args Callback) (body : Act Unit) :
    exec (mode.engine.screenBlock args body) world
      = exec (withBlock (openScreen args) body) world := by
  cases mode with
  | exclusive => exact exec_guarded world _ _ body
  | ambient => exact exec_runBlock world _ _ body

/-- A container with a block, in either form. -/
theorem exec_containerBlock (mode : Mode) (kind : WidgetKind) (args : Args Callback)
    (body : Act Unit) :
    exec (mode.engine.containerBlock kind args body) world
      = exec (withBlock (openContainer kind args) body) world := by
  cases mode with
  | exclusive => exact exec_guarded world _ _ body
  | ambient => exact exec_runBlock world _ _ body

end Act

/-! ## Presentations -/

namespace Act

variable (run : Presenter → Presentation → Act Unit) (selector : Selector) (world : World)

/-- A presentation in place. -/
theorem exec_exclusivePresent :
    exec (Exclusive.present run selector) world =
      match world.session.presenter with
      | none => (.error (.failed .presenterUnavailable), world)
      | some presenter =>
          match world.session.tree.select selector with
          | .error error => (.error (.failed error), world)
          | .ok entry =>
              (run presenter { tree := world.session.tree, entry := entry,
                               title := world.session.config.title }).exec world := by
  unfold Exclusive.present
  rw [exec_bind_ok (exec_session world)]
  cases world.session.presenter with
  | none => rfl
  | some presenter =>
      dsimp only
      rw [exec_bind, exec_ofExcept]
      cases world.session.tree.select selector with
      | error error => rfl
      | ok entry => rfl

/-- A presentation for which the presenter is taken out.  It is put back unless there was a panic.
-/
theorem exec_ambientPresent :
    exec (Ambient.present run selector) world =
      match world.session.presenter with
      | none => (.error (.failed .presenterUnavailable), world)
      | some presenter =>
          match world.session.tree.select selector with
          | .error error => (.error (.failed error), world)
          | .ok entry =>
              let (outcome, ended) :=
                (run presenter { tree := world.session.tree, entry := entry,
                                 title := world.session.config.title }).exec
                  { world with session := world.session.uninstall }
              match Ending.of outcome with
              | .panicked => (outcome, ended)
              | _ => (outcome, { ended with
                  session := ended.session.restore presenter world.session.tree }) := by
  unfold Ambient.present
  rw [exec_bind_ok (exec_session world)]
  cases world.session.presenter with
  | none => rfl
  | some presenter =>
      dsimp only
      rw [exec_bind, exec_ofExcept]
      cases world.session.tree.select selector with
      | error error => rfl
      | ok entry =>
          dsimp only
          have huninstall : exec (changeSession (·.uninstall)) world =
            (.ok (), { world with session := world.session.uninstall }) := rfl
          rw [exec_bind_ok huninstall, exec_bind_ok (exec_attempt _ _)]
          -- however the presentation ends, the presenter is put back next
          obtain ⟨outcome, ended⟩ := (run presenter _).exec _
          cases outcome with
          | ok value => rfl
          | error halt => cases halt <;> rfl

end Act

end Storyboard
