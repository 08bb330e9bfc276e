import Storyboard.Proofs.Session.Agreement
import Storyboard.Proofs.Session.Watching

/-!
# Scripts in both forms

A step is portable if it says only what both forms of the keywords offer, and if nothing that it
declares or installs runs steps of its own.  A script of portable steps does the same in both forms
(`Script.same_in_both_forms`): it ends, in the same world, and whoever looks at the world after each
step, however deep in blocks, sees the same.
-/

namespace Storyboard

/-! ## Portable steps -/

/-- The arguments ask for nothing to be run on a click. -/
def Draft.Inert : Draft Step → Prop
  | .text _ => True
  | .attributes _ _ _ onClick => ∀ reaction ∈ onClick, reaction.steps = []

/-- The steps inside an action. -/
def Action.block : Action Step → List Step
  | .screenBlock _ body | .containerBlock _ _ body | .nest _ _ _ body => body
  | .group body | .catchPanic body => body
  | _ => []

/-- Both forms offer what the action does, the ambient one with tables for its only containers. -/
def Action.Shared : Action Step → Prop
  | .screen args | .widget _ args | .screenBlock args _ => args.Inert
  | .containerBlock kind args _ => kind = .table ∧ args.Inert
  | .nest kind _ _ _ => kind = .table
  | .install presenter => presenter.steps = []
  | .reset | .fail _ | .panic _ | .group _ | .catchPanic _ => True
  | .present _ | .click _ | .readText _ => True
  | _ => False

/-- The step and all steps inside it do what both forms offer. -/
inductive Step.Portable : Step → Prop
  | intro {step : Step} (hshared : step.action.Shared)
      (hblock : ∀ inner ∈ step.action.block, Portable inner) : Portable step

theorem Draft.inert_read {draft : Draft Step} (h : draft.Inert) {place : Place}
    {args : Args Callback} (hargs : draft.read place = .ok args) : args.Inert := by
  cases draft with
  | text value =>
      cases hargs
      trivial
  | attributes id text style onClick =>
      have hcallback : ∀ callback ∈ onClick.map fun reaction =>
          { log := reaction.log, steps := reaction.steps, place := place : Callback },
          callback.Inert := by
        intro callback hcallback
        obtain ⟨reaction, hreaction, rfl⟩ := Option.map_eq_some_iff.mp hcallback
        exact h reaction hreaction
      unfold Draft.read at hargs
      dsimp only at hargs
      split at hargs
      · cases hargs
        exact hcallback
      · split at hargs
        · cases hargs
        · cases hargs
          exact hcallback

/-- A presenter of a script gives a node no behaviour but that which the node itself asks for. -/
theorem PresenterDraft.inert_toPresenter {draft : PresenterDraft Step} (h : draft.steps = [])
    (place : Place) : (draft.toPresenter place).Inert := by
  refine ⟨h, fun {node} hnode => ?_⟩
  show (draft.behaviour { node with handle := .unbound }).Inert
  unfold PresenterDraft.behaviour
  cases draft.kind with
  | recording => exact hnode.onClick
  | reporting => trivial
  | scripted => cases draft.isUnbound <;> trivial

namespace Act.Agree

variable {run run' : Runner} {mode other : Mode} {place : Place}

/-! ## Clicks and presenters -/

theorem call {callback : Callback} (h : callback.Inert) :
    Alike (callback.call run mode) (callback.call run' other) := by
  obtain ⟨log, steps, place⟩ := callback
  obtain rfl : steps = [] := h
  refine of_exec_eq (.emit ("onclick " ++ log)) (fun _ _ => ?_) fun _ _ => ?_
  · cases mode <;> rfl
  · cases other <;> rfl

theorem click {handle : Handle Callback} (h : handle.Inert) :
    Alike (handle.click run mode) (handle.click run' other) := by
  have hpress : ∀ press, handle.press = .ok press →
      ∀ callback, press = .reaction callback → callback.Inert := by
    rintro press hpress callback rfl
    cases handle with
    | unbound => cases hpress
    | tagged tag text => cases hpress
    | recorded text onClick =>
        cases onClick with
        | none => cases hpress
        | some callback =>
            cases hpress
            exact h _ rfl
  refine .bind (.ofExcept hpress) fun press hinert => ?_
  cases press with
  | nothing => exact .pure trivial
  | reaction callback => exact .call (hinert callback rfl)
  | report event => exact .emit event

theorem installPresenter {presenter : Presenter} (h : presenter.Inert) :
    Alike (Storyboard.installPresenter presenter) (Storyboard.installPresenter presenter) := by
  refine .bind .session fun session _ => ?_
  refine .bind (.changeSession fun _ hsession => hsession.install h) fun _ _ => ?_
  cases presenter.kind with
  | recording => exact .bind (.changeJournal _) fun _ _ => .pure trivial
  | reporting => exact .pure trivial
  | scripted => exact .pure trivial

/-! ## Steps -/

theorem runBlock {steps : List Step}
    (h : ∀ step ∈ steps, ∀ place, Alike (run mode place step) (run' other place step)) :
    Alike (Storyboard.runBlock run mode place steps)
      (Storyboard.runBlock run' other place steps) := by
  have hfrom (index : Nat) :
      Alike (runFrom run mode place index steps) (runFrom run' other place index steps) := by
    induction steps generalizing index with
    | nil => exact .pure trivial
    | cons step rest ih =>
        obtain ⟨hstep, hrest⟩ := List.forall_mem_cons.mp h
        exact .bind (hstep _) fun _ _ => ih hrest (index + 1)
  exact hfrom 0

theorem declaredAs {declare declare' : Act NodeId} (h : Alike declare declare') :
    Alike (Storyboard.declaredAs declare) (Storyboard.declaredAs declare') :=
  .bind h fun _ _ => .bind .session fun _ _ => .pure trivial

theorem answering {act act' : Act Answer} (h : Alike act act') :
    Alike (Storyboard.answering act) (Storyboard.answering act') :=
  .bind h fun _ _ => .pure trivial

theorem silently {act act' : Act Unit} (h : Alike act act') :
    Alike (Storyboard.silently act) (Storyboard.silently act') :=
  .bind h fun _ _ => .pure trivial

theorem nestContainers (kind : WidgetKind) (label : String) {body body' : Act Unit}
    (hbody : Alike body body') (index remaining : Nat) :
    Alike (Storyboard.nestContainers mode.engine kind label body index remaining)
      (Storyboard.nestContainers other.engine kind label body' index remaining) := by
  induction remaining generalizing index with
  | zero => exact hbody
  | succ remaining ih =>
      exact .bind (.containerBlock mode other kind trivial (ih (index + 1))) fun _ _ =>
        .pure trivial

/-- A portable action does the same in both modes if the block inside it does. -/
theorem perform {action : Action Step} (hshared : action.Shared)
    (hblock : Alike (Storyboard.runBlock run mode place action.block)
      (Storyboard.runBlock run' other place action.block)) :
    Alike (Storyboard.perform run mode place action)
      (Storyboard.perform run' other place action) := by
  have hread (draft : Draft Step) (hdraft : draft.Inert) {α : Type}
      {next next' : Args Callback → Act α}
      (hnext : ∀ args, args.Inert → Alike (next args) (next' args)) :
      Alike (Act.ofExcept (draft.read place) >>= next)
        (Act.ofExcept (draft.read place) >>= next') :=
    .bind (.ofExcept fun _ hargs => Draft.inert_read hdraft hargs) hnext
  cases action with
  | screen args => exact hread args hshared fun _ hargs => .declaredAs (.screen mode other hargs)
  | widget kind args =>
      exact hread args hshared fun _ hargs => .declaredAs (.widget mode other kind hargs)
  | screenBlock args body =>
      exact hread args hshared fun _ hargs => .declaredAs (.screenBlock mode other hargs hblock)
  | containerBlock kind args body =>
      exact hread args hshared.2 fun _ hargs =>
        .declaredAs (.containerBlock mode other kind hargs hblock)
  | nest kind label depth body =>
      obtain rfl : kind = .table := hshared
      have hkind (mode : Mode) : mode.nestedKind .table = .table := by cases mode <;> rfl
      cases depth with
      | zero => exact .silently hblock
      | succ depth =>
          simp only [Storyboard.perform, hkind]
          exact .declaredAs (.containerBlock mode other .table trivial
            (.nestContainers .table label hblock 1 depth))
  | reset => exact .silently (.changeSession fun _ hsession => hsession.reset)
  | fail reason => exact .fail _
  | panic message => exact .throw (by simp)
  | group body => exact .silently hblock
  | catchPanic body =>
      refine .answering (.bind (.attempt hblock) fun outcome houtcome => ?_)
      split
      · exact .pure trivial
      · exact .pure trivial
      · exact .throw houtcome
  | install presenter =>
      exact .answering (.installPresenter (PresenterDraft.inert_toPresenter hshared place))
  | present selector => exact .silently (.present mode other run run' selector)
  | click node =>
      exact .silently (.bind (.resolve node) fun _ _ => .bind .session fun _ hsession =>
        .bind (.ofExcept fun _ hhandle => hsession.handle hhandle) fun _ hhandle => .click hhandle)
  | readText node =>
      exact .answering (.bind (.resolve node) fun _ _ => .bind .session fun _ hsession =>
        .bind (.ofExcept fun _ hhandle => hsession.handle hhandle) fun _ _ =>
          .bind (.ofExcept fun _ _ => trivial) fun _ _ => .pure trivial)
  | addScreen | addWidget | appendWidget | edit | setConvention => cases hshared
  | exclusively | uninstall | react | ask => cases hshared

theorem record (place : Place) (name : String) (answer : Answer) :
    Alike (Storyboard.record place name answer) (Storyboard.record place name answer) :=
  quiet (fun _ => rfl) fun _ => trivial

theorem bindName (name : Option String) (id : Option NodeId) :
    Alike (Storyboard.bindName name id) (Storyboard.bindName name id) := by
  unfold Storyboard.bindName
  split
  · exact .changeJournal _
  · exact .pure trivial

theorem runStepWith {step : Step}
    (hperform : Alike (Storyboard.perform run mode place step.action)
      (Storyboard.perform run' other place step.action)) :
    Alike (Storyboard.runStepWith run mode place step)
      (Storyboard.runStepWith run' other place step) := by
  refine .bind (.attempt hperform) fun outcome houtcome => ?_
  split
  · exact .bind (.bindName _ _) fun _ _ => .record _ _ _
  · refine .bind (.record _ _ _) fun _ _ => ?_
    split
    · exact .pure trivial
    · exact .fail _
  · exact .throw houtcome

end Act.Agree

/-! ## Watched steps -/

namespace Act.Agree

theorem note (look : Observer) (place : Place) (outcome : Except Halt Unit) :
    Alike (Storyboard.note look place outcome) (Storyboard.note look place outcome) :=
  quiet (fun _ => rfl) fun _ => trivial

theorem watched {first second : Act Unit} (look : Observer) (place : Place)
    (h : Alike first second) :
    Alike (Storyboard.watched look place first) (Storyboard.watched look place second) := by
  refine .bind (.attempt h) fun outcome houtcome => .bind (.note look place outcome) fun _ _ => ?_
  cases outcome with
  | ok value => exact .pure trivial
  | error halt => exact .throw houtcome

end Act.Agree

/-- From the depth on, in every mode and watched by anybody, the step does the same. -/
def Step.SteadyFrom (depth : Nat) (step : Step) : Prop :=
  ∀ look first second, depth ≤ first → depth ≤ second → ∀ mode other place,
    Act.Alike (watchStep look first mode place step) (watchStep look second other place step)

theorem Step.SteadyFrom.mono {depth larger : Nat} {step : Step} (h : step.SteadyFrom depth)
    (hle : depth ≤ larger) : step.SteadyFrom larger :=
  fun look first second hfirst hsecond =>
    h look first second (hle.trans hfirst) (hle.trans hsecond)

/-- A block is steady from the depth of its deepest step. -/
theorem exists_steadyFrom {steps : List Step}
    (h : ∀ step ∈ steps, ∃ depth, step.SteadyFrom depth) :
    ∃ depth, ∀ step ∈ steps, step.SteadyFrom depth := by
  induction steps with
  | nil => exact ⟨0, by simp⟩
  | cons step rest ih =>
      obtain ⟨⟨depth, hstep⟩, hrest⟩ := List.forall_mem_cons.mp h
      obtain ⟨deepest, hdeepest⟩ := ih hrest
      refine ⟨max depth deepest, List.forall_mem_cons.mpr ⟨?_, fun other hother => ?_⟩⟩
      · exact hstep.mono (Nat.le_max_left _ _)
      · exact (hdeepest other hother).mono (Nat.le_max_right _ _)

/-- A portable step is steady, one deeper than the steps inside it. -/
theorem Step.Portable.exists_steadyFrom {step : Step} (h : step.Portable) :
    ∃ depth, step.SteadyFrom depth := by
  induction h with
  | @intro step hshared hblock ih =>
      obtain ⟨depth, hinner⟩ := Storyboard.exists_steadyFrom ih
      refine ⟨depth + 1, fun look first second hfirst hsecond mode other place => ?_⟩
      cases first with
      | zero => cases hfirst
      | succ first =>
          cases second with
          | zero => cases hsecond
          | succ second =>
              have hfirst := Nat.le_of_succ_le_succ hfirst
              have hsecond := Nat.le_of_succ_le_succ hsecond
              refine .watched look place (.runStepWith (.perform hshared (.runBlock ?_)))
              exact fun inner hmem => hinner inner hmem look first second hfirst hsecond mode other

/-! ## Whole scripts -/

/-- Whatever becomes of a step at the top of a script, the script goes on. -/
theorem Act.Agree.runTopStepWith {run run' : Runner} {mode other : Mode} {index : Nat} {step : Step}
    (h : Alike (run mode [.step index] step) (run' other [.step index] step))
    {world : World} (hworld : world.session.Inert) :
    ∃ after, after.session.Inert ∧
      (runTopStepWith run mode index step).exec world = (.ok (), after) ∧
      (runTopStepWith run' other index step).exec world = (.ok (), after) := by
  obtain ⟨heq, hinert, hends⟩ := h world hworld
  unfold Storyboard.runTopStepWith
  rw [exec_bind_ok (exec_attempt world _), exec_bind_ok (exec_attempt world _), heq]
  generalize (run' other [.step index] step).exec world = ended at hinert hends
  obtain ⟨outcome, after⟩ := ended
  cases outcome with
  | ok value => exact ⟨after, hinert, rfl, rfl⟩
  | error halt =>
      cases halt with
      | failed error => exact ⟨after, hinert, rfl, rfl⟩
      | panicked message =>
          let recorded := after.journal.record [.step index] step.name (.panicked message)
            after.session
          exact ⟨{ after with journal := recorded }, hinert, rfl, rfl⟩
      | exhausted => exact absurd rfl hends

theorem Act.Agree.runTopWith {run run' : Runner} {mode other : Mode} {steps : List Step}
    (h : ∀ step ∈ steps, ∀ place, Alike (run mode place step) (run' other place step))
    (index : Nat) {world : World} (hworld : world.session.Inert) :
    ∃ after, (runTopWith run mode index steps).exec world = (.ok (), after) ∧
      (runTopWith run' other index steps).exec world = (.ok (), after) := by
  induction steps generalizing index world with
  | nil => exact ⟨world, rfl, rfl⟩
  | cons step rest ih =>
      obtain ⟨hstep, hrest⟩ := List.forall_mem_cons.mp h
      obtain ⟨middle, hmiddle, hfirst, hsecond⟩ := (hstep _).runTopStepWith hworld
      obtain ⟨after, hfirst', hsecond'⟩ := ih hrest (index + 1) hmiddle
      refine ⟨after, ?_, ?_⟩
      · rw [Storyboard.runTopWith, exec_bind_ok hfirst, hfirst']
      · rw [Storyboard.runTopWith, exec_bind_ok hsecond, hsecond']

/-- A script of portable steps does the same in both forms: it ends, in the same world, and anybody
who looks at the world after each step sees the same. -/
theorem Script.same_in_both_forms (config : Config) (isQuiet : Bool) {steps : List Step}
    (h : ∀ step ∈ steps, step.Portable) :
    ∃ depth,
      (∃ world, ∀ more ≥ depth, ∀ mode,
        Script.run? more { mode := mode, config := config, isQuiet := isQuiet, steps := steps }
          = some world) ∧
      ∀ look, ∃ world, ∀ more ≥ depth, ∀ mode,
        Script.watch? look more
          { mode := mode, config := config, isQuiet := isQuiet, steps := steps } = some world := by
  obtain ⟨depth, hsteady⟩ := exists_steadyFrom fun step hstep => (h step hstep).exists_steadyFrom
  have hwatch : ∀ look, ∃ world, ∀ more ≥ depth, ∀ mode,
      Script.watch? look more
        { mode := mode, config := config, isQuiet := isQuiet, steps := steps } = some world := by
    intro look
    -- the exclusive run to just that depth is what every other run is compared with
    have hrun (more : Nat) (hmore : more ≥ depth) (mode : Mode) : ∃ after,
        (runTopWith (watchStep look depth) .exclusive 0 steps).exec
          (Script.start ⟨.exclusive, config, isQuiet, steps⟩) = (.ok (), after) ∧
        (runTopWith (watchStep look more) mode 0 steps).exec
          (Script.start ⟨mode, config, isQuiet, steps⟩) = (.ok (), after) :=
      Act.Agree.runTopWith (fun step hstep place =>
        hsteady step hstep look depth more le_rfl hmore .exclusive mode place) 0
        (Session.inert_ofConfig config)
    obtain ⟨world, hworld, -⟩ := hrun depth le_rfl .exclusive
    refine ⟨world, fun more hmore mode => ?_⟩
    obtain ⟨other, hexclusive, hother⟩ := hrun more hmore mode
    cases hexclusive.symm.trans hworld
    exact Script.watch?_eq_some hother
  obtain ⟨world, hsilent⟩ := hwatch .silent
  refine ⟨depth, ⟨world, fun more hmore mode => ?_⟩, hwatch⟩
  rw [← Script.watch?_silent]
  exact hsilent more hmore mode

theorem Step.Portable.of_block_eq_nil {step : Step} (hshared : step.action.Shared)
    (hblock : step.action.block = []) : step.Portable :=
  .intro hshared fun inner hinner => by simp [hblock] at hinner

/-- A block that fails after a row. -/
def tableSteps : List Step :=
  [{ name := "row", binding := none, isTolerant := false, action := .widget .row (.text "Yes") },
    { name := "fail", binding := none, isTolerant := false, action := .fail "no more" }]

def caughtSteps : List Step :=
  [{ name := "panic", binding := none, isTolerant := false, action := .panic "late" }]

/-- A block with a button, a table whose failure is tolerated, and a panic that is caught. -/
def screenSteps : List Step :=
  [{ name := "button", binding := some "ok", isTolerant := false
     action := .widget .button
      (.attributes none (some "Ok") none (some { log := "pressed", steps := [] })) },
    { name := "table_with", binding := none, isTolerant := true
      action := .containerBlock .table (.text "Options") tableSteps },
    { name := "catch", binding := none, isTolerant := false
      action := .catchPanic caughtSteps }]

/-- A screen that is presented, and whose button is clicked and read. -/
def loginSteps : List Step :=
  [{ name := "set_runtime", binding := none, isTolerant := false
     action := .install
      { kind := .recording, tag := "main", failure := none, steps := [], isUnbound := false } },
    { name := "screen_with", binding := none, isTolerant := false
      action := .screenBlock (.text "Login") screenSteps },
    { name := "app", binding := none, isTolerant := false, action := .present .first },
    { name := "click", binding := none, isTolerant := false, action := .click (.named "ok") },
    { name := "widget_text", binding := none, isTolerant := false
      action := .readText (.named "ok") }]

theorem portable_loginSteps : ∀ step ∈ loginSteps, step.Portable := by
  have hbutton : Draft.Inert
      (.attributes none (some "Ok") none (some { log := "pressed", steps := [] })) := by
    simp [Draft.Inert]
  have htable : ∀ inner ∈ tableSteps, inner.Portable := by
    simp only [tableSteps, List.forall_mem_cons]
    exact ⟨.of_block_eq_nil trivial rfl, .of_block_eq_nil trivial rfl, by simp⟩
  have hcaught : ∀ inner ∈ caughtSteps, inner.Portable := by
    simp only [caughtSteps, List.forall_mem_cons]
    exact ⟨.of_block_eq_nil trivial rfl, by simp⟩
  have hscreen : ∀ inner ∈ screenSteps, inner.Portable := by
    simp only [screenSteps, List.forall_mem_cons]
    exact ⟨.of_block_eq_nil hbutton rfl, .intro ⟨rfl, trivial⟩ htable, .intro trivial hcaught,
      by simp⟩
  simp only [loginSteps, List.forall_mem_cons]
  exact ⟨.of_block_eq_nil rfl rfl, .intro trivial hscreen, .of_block_eq_nil trivial rfl,
    .of_block_eq_nil trivial rfl, .of_block_eq_nil trivial rfl, by simp⟩

theorem same_in_both_forms_login :
    (∀ step ∈ loginSteps, step.Portable) ∧
    ∃ depth,
      (∃ world, ∀ more ≥ depth, ∀ mode,
        Script.run? more { mode := mode, config := {}, isQuiet := false, steps := loginSteps }
          = some world) ∧
      ∀ look, ∃ world, ∀ more ≥ depth, ∀ mode,
        Script.watch? look more
          { mode := mode, config := {}, isQuiet := false, steps := loginSteps } = some world :=
  ⟨portable_loginSteps, Script.same_in_both_forms {} false portable_loginSteps⟩

end Storyboard
