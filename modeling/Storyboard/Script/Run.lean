import Storyboard.Script.Query
import Storyboard.Session.Engine
import Storyboard.Text.JsonString

/-!
# Running a script

Steps are run in order, and a block ends at its first failing step unless that step is tolerated.
Every step that ends writes an entry into the journal; a step that a panic passes through writes
none.  What is done on a click, and what a presenter does, may run steps of its own, so steps are
run to a given depth of nesting: beyond it the run halts as exhausted, which no script that ends by
itself notices if the depth is large enough.
-/

namespace Storyboard

open Act

/-- Which form of the keywords a step uses. -/
inductive Mode where
  | exclusive
  | ambient
  deriving DecidableEq

/-- The keywords of a mode. -/
def Mode.engine : Mode → Engine
  | .exclusive => .exclusive
  | .ambient => .ambient

/-- The kind of containers that are declared inside each other.  The ambient keywords know only one
kind that takes a block. -/
def Mode.nestedKind (mode : Mode) (kind : WidgetKind) : WidgetKind :=
  match mode with
  | .exclusive => kind
  | .ambient => .table

/-- How the steps inside a step are run: with which keywords, and at which place. -/
abbrev Runner := Mode → Place → Step → Act Unit

/-- Runs the steps of a block from the given number on, until one fails. -/
def runFrom (run : Runner) (mode : Mode) (place : Place) : Nat → List Step → Act Unit
  | _, [] => pure ()
  | index, step :: rest => do
      run mode (.step index :: place) step
      runFrom run mode place (index + 1) rest

/-- Runs the steps of a block until one fails. -/
def runBlock (run : Runner) (mode : Mode) (place : Place) (steps : List Step) : Act Unit :=
  runFrom run mode place 0 steps

/-! ## Arguments -/

/-- The arguments that a script gives at a place, if their style can be read. -/
def Draft.read (place : Place) : Draft Step → Except Error (Args Callback)
  | .text value => .ok (.text value)
  | .attributes id shown style onClick =>
      let callback := onClick.map fun reaction =>
        { log := reaction.log, steps := reaction.steps, place := place : Callback }
      match style with
      | none => .ok (.attributes { id := id, text := shown, onClick := callback })
      | some source =>
          match source.read with
          | .error fault => .error (.style fault)
          | .ok style =>
              .ok (.attributes
                { id := id, text := shown, style := some style, onClick := callback })

/-- The behaviour that a presenter of a script has for a node. -/
def PresenterDraft.behaviour (draft : PresenterDraft Step) (node : Node Callback) :
    Handle Callback :=
  match draft.kind with
  | .recording => .recorded node.text node.onClick
  | .reporting => .unbound
  | .scripted => if draft.isUnbound then .unbound else .tagged draft.tag node.text

/-- The presenter that a script gives at a place. -/
def PresenterDraft.toPresenter (place : Place) (draft : PresenterDraft Step) : Presenter :=
  { kind := draft.kind, tag := draft.tag, failure := draft.failure, steps := draft.steps,
    behaviour := draft.behaviour, place := place }

/-! ## Clicks -/

/-- Does what is to be done on a click.  Only ambient keywords can run its steps, since otherwise
the session is held by the one who clicks; a failure among them is not passed on. -/
def Callback.call (run : Runner) (mode : Mode) (callback : Callback) : Act Unit := do
  emit ("onclick " ++ callback.log)
  match mode with
  | .exclusive => pure ()
  | .ambient =>
      match ← attempt (runBlock run .ambient (.onClick :: callback.place) callback.steps) with
      | .ok () | .error (.failed _) => pure ()
      | .error halt => throw halt

/-- Clicks on a handle. -/
def Handle.click (run : Runner) (mode : Mode) (handle : Handle Callback) : Act Unit := do
  match ← ofExcept handle.press with
  | .nothing => pure ()
  | .reaction callback => callback.call run mode
  | .report event => emit event

/-! ## Presentations -/

/-- The entry and the title of a presentation, as they stand in an event. -/
def Presentation.describe (presentation : Presentation) : String :=
  " entry=" ++ Text.jsonOptional presentation.entryTitle
    ++ " title=" ++ Text.jsonOptional presentation.title

/-- Keeps a record of a presentation under a tag. -/
def keepRecord (tag : String) (presentation : Presentation) : Act Unit :=
  let record : PresentationRecord :=
    { entry := presentation.entryTitle, title := presentation.title,
      outline := presentation.tree.outline }
  changeJournal fun journal =>
    { journal with
      records := journal.records.map fun (name, kept) =>
        if name = tag then (name, kept ++ [record]) else (name, kept) }

/-- Fails with a reason, if there is one. -/
def failWith : Option String → Act Unit
  | none => pure ()
  | some reason => fail (.invalidArguments reason)

/-- What a presenter does when it is handed a tree. -/
def Presenter.run (run : Runner) (mode : Mode) (presenter : Presenter)
    (presentation : Presentation) : Act Unit :=
  match presenter.kind with
  | .recording => do
      keepRecord presenter.tag presentation
      failWith presenter.failure
  | .reporting => do
      emit ("fn " ++ presenter.tag ++ presentation.describe)
      failWith presenter.failure
  | .scripted => do
      emit ("run " ++ presenter.tag ++ presentation.describe ++ " screens="
        ++ toString presentation.tree.screens.length)
      let outcome ←
        match mode with
        | .exclusive => pure (.ok ())
        | .ambient => attempt (runBlock run .ambient (.run :: presenter.place) presenter.steps)
      let ran := emit ("ran " ++ presenter.tag ++ " nodes=" ++ toString presentation.tree.size)
      match outcome with
      | .ok () => ran
      | .error (.failed error) => do
          ran
          fail error
      | .error halt => throw halt

/-- Installs a presenter.  What a recording presenter keeps begins empty. -/
def installPresenter (presenter : Presenter) : Act Answer := do
  let replaced := (← session).presenter.isSome
  changeSession (·.install presenter)
  match presenter.kind with
  | .recording =>
      changeJournal fun journal =>
        { journal with
          records := (presenter.tag, []) :: journal.records.filter (·.1 ≠ presenter.tag) }
  | _ => pure ()
  return .replaced replaced

/-! ## Steps -/

/-- Applies changes to a node. -/
def Changes.apply (changes : Changes) (style : Option Style) (node : Node Callback) :
    Node Callback :=
  { node with
    kind := changes.kind.getD node.kind
    id := changes.id.getD node.id
    text := changes.text.getD node.text
    style := style.getD node.style }

/-- Changes fields of a node. -/
def editNode (reference : Reference) (changes : Changes) : Act Answer := do
  let id ← Act.resolve reference
  let style ←
    match changes.style.map StyleSource.read with
    | none => pure none
    | some (.error fault) => fail (.style fault)
    | some (.ok style) => pure (some style)
  match (← session).tree.get? id with
  | none => fail .unknownNode
  | some node =>
      changeTree (·.modify id (changes.apply style))
      return .node (some (changes.apply style node))

/-- Declares `remaining` containers inside each other, from the given number on, with a block in the
innermost. -/
def nestContainers (engine : Engine) (kind : WidgetKind) (label : String) (body : Act Unit) :
    Nat → Nat → Act Unit
  | _, 0 => body
  | index, remaining + 1 => do
      let _ ← engine.containerBlock kind (.text (label ++ toString index))
        (nestContainers engine kind label body (index + 1) remaining)

/-- The answer about a node that was declared, with the node. -/
def declaredAs (declare : Act NodeId) : Act (Answer × Option NodeId) := do
  let id ← declare
  return (.declared ((← session).tree.locate id), some id)

/-- An answer without a node. -/
def answering (act : Act Answer) : Act (Answer × Option NodeId) := do
  return (← act, none)

/-- An act that answers nothing. -/
def silently (act : Act Unit) : Act (Answer × Option NodeId) := do
  act
  return (.nothing, none)

/-- Does what a step says: its answer, and the node that it declared, if it declared one. -/
def perform (run : Runner) (mode : Mode) (place : Place) (action : Action Step) :
    Act (Answer × Option NodeId) :=
  let engine := mode.engine
  let block := runBlock run mode place
  match action with
  | .screen args => do
      let args ← ofExcept (args.read place)
      declaredAs (engine.screen args)
  | .widget kind args => do
      let args ← ofExcept (args.read place)
      declaredAs (engine.widget kind args)
  | .screenBlock args body => do
      let args ← ofExcept (args.read place)
      declaredAs (engine.screenBlock args (block body))
  | .containerBlock kind args body => do
      let args ← ofExcept (args.read place)
      declaredAs (engine.containerBlock kind args (block body))
  | .nest _ _ 0 body => silently (block body)
  | .nest kind label (depth + 1) body =>
      let kind := mode.nestedKind kind
      declaredAs (engine.containerBlock kind (.text (label ++ toString 0))
        (nestContainers engine kind label (block body) 1 depth))
  | .addScreen args => do
      let args ← ofExcept (args.read place)
      declaredAs (growTree (·.addScreen args))
  | .addWidget parent kind args => do
      let args ← ofExcept (args.read place)
      let parent ← Act.resolve parent
      declaredAs (growTree fun tree => tree.addWidget parent args kind)
  | .appendWidget kind args strictRows => do
      let args ← ofExcept (args.read place)
      declaredAs (growTree fun tree => tree.appendWidget kind args strictRows)
  | .edit node changes => answering (editNode node changes)
  | .reset => silently (changeSession (·.reset))
  | .setConvention convention => answering do
      changeTree fun tree => { tree with convention := convention }
      return .text convention.name
  | .fail reason => fail (.invalidArguments reason)
  | .panic message => throw (.panicked message)
  | .group body => silently (block body)
  | .catchPanic body => answering do
      match ← attempt (block body) with
      | .ok () => return .nothing
      | .error (.panicked message) => return .panicked message
      | .error halt => throw halt
  | .exclusively body => silently (runBlock run .exclusive place body)
  | .install presenter => answering (installPresenter (presenter.toPresenter place))
  | .uninstall => answering do
      let taken := (← session).presenter.isSome
      changeSession (·.uninstall)
      return .taken taken
  | .present selector =>
      silently (engine.present (fun presenter => presenter.run run mode) selector)
  | .click node => silently do
      let id ← Act.resolve node
      let handle ← ofExcept ((← session).handleOf id)
      handle.click run mode
  | .readText node => answering do
      let id ← Act.resolve node
      let handle ← ofExcept ((← session).handleOf id)
      return .text (← ofExcept handle.read)
  | .react node => answering do
      let id ← Act.resolve node
      match ((← session).tree.get? id).bind (·.onClick) with
      | none => return .flag false
      | some callback =>
          callback.call run mode
          return .flag true
  | .ask query => answering query.answer

/-- Writes an entry about a step. -/
def record (place : Place) (name : String) (answer : Answer) : Act Unit :=
  modify fun world =>
    { world with journal := world.journal.record place name answer world.session }

/-- Gives a name to a node. -/
def bindName (name : Option String) (id : Option NodeId) : Act Unit :=
  match name, id with
  | some name, some id =>
      changeJournal fun journal => { journal with names := (name, id) :: journal.names }
  | _, _ => pure ()

/-- Runs a step and writes an entry about it, unless a panic passes through it. -/
def runStepWith (run : Runner) (mode : Mode) (place : Place) (step : Step) : Act Unit := do
  match ← attempt (perform run mode place step.action) with
  | .ok (answer, id) =>
      bindName step.binding id
      record place step.name answer
  | .error (.failed error) =>
      record place step.name (.failed error)
      if step.isTolerant then pure () else fail error
  | .error halt => throw halt

/-- Runs a step whose steps nest to at most the given depth. -/
def runStep : Nat → Runner
  | 0, _, _, _ => throw .exhausted
  | depth + 1, mode, place, step => runStepWith (runStep depth) mode place step

/-! ## Whole scripts -/

/-- Runs a step at the top of a script: whatever comes of it, the next step can be run. -/
def runTopStep (depth : Nat) (mode : Mode) (index : Nat) (step : Step) : Act Unit := do
  match ← attempt (runStep depth mode [.step index] step) with
  | .ok () | .error (.failed _) => pure ()
  | .error (.panicked message) => record [.step index] step.name (.panicked message)
  | .error .exhausted => throw .exhausted

/-- Runs the steps at the top of a script from the given number on. -/
def runTop (depth : Nat) (mode : Mode) : Nat → List Step → Act Unit
  | _, [] => pure ()
  | index, step :: rest => do
      runTopStep depth mode index step
      runTop depth mode (index + 1) rest

/-- A script with what it runs in. -/
structure Script where
  mode : Mode
  config : Config
  /-- Whether the journal leaves out the session after each step. -/
  isQuiet : Bool
  steps : List Step

/-- The world in which a script begins. -/
def Script.start (script : Script) : World :=
  { session := .ofConfig script.config, journal := { isQuiet := script.isQuiet } }

/-- Runs a script to a depth of nesting: the world in which it ends, or nothing if the depth does
not suffice. -/
def Script.run? (depth : Nat) (script : Script) : Option World :=
  match ((runTop depth script.mode 0 script.steps).run).run script.start with
  | (.ok (), world) => some world
  | (.error _, _) => none

/-- The depth to which scripts are run. -/
def nestingDepth : Nat := 100000

/-- The entries of a journal in order. -/
def Journal.inOrder (journal : Journal) : List Entry := journal.entries.reverse

end Storyboard
