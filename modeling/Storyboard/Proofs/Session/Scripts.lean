import Storyboard.Proofs.Session.Programs
import Storyboard.Proofs.Session.Staging

/-!
# Scripts are programs

Whatever a step of a script does to the session, it does by calls and presentations
(`Act.Traces.runStep`).  So the session in which a script ends is one in which a program can be
(`Script.staged`, `Script.reached`), and a block of steps is a block as programs have them
(`Program.ofSteps`), to any depth of nesting.
-/

namespace Storyboard

variable {α β : Type} {isPresenting : Bool}

namespace Act

/-- Whatever the act does to the session, during a presentation or not, it does by calls and
presentations. -/
def Traces (isPresenting : Bool) (act : Act α) : Prop :=
  ∀ world, ∃ moments, Plays isPresenting world.session moments (act.exec world).2.session

namespace Traces

/-! ## Putting acts together -/

theorem quiet {act : Act α} (h : ∀ world, (act.exec world).2.session = world.session) :
    Traces isPresenting act := by
  intro world
  refine ⟨[], ?_⟩
  rw [h world]
  exact .done _ _

theorem step {act : Act α}
    (h : ∀ world, ∃ call, call.isRestoration = false ∧
      Steps world.session call (act.exec world).2.session) :
    Traces isPresenting act := by
  intro world
  obtain ⟨call, hcall, hstep⟩ := h world
  exact ⟨_, .single hcall hstep⟩

theorem of_exec_eq {act other : Act α} (h : Traces isPresenting other)
    (heq : ∀ world, act.exec world = other.exec world) : Traces isPresenting act := by
  intro world
  rw [heq world]
  exact h world

/-- Forgetting which calls belong together leaves a run. -/
theorem runs {act : Act α} (h : Traces isPresenting act) (world : World) :
    ∃ calls, Runs world.session calls (act.exec world).2.session := by
  obtain ⟨moments, hplays⟩ := h world
  exact hplays.runs

theorem bind {act : Act α} {next : α → Act β} (hact : Traces isPresenting act)
    (hnext : ∀ value, Traces isPresenting (next value)) : Traces isPresenting (act >>= next) := by
  intro world
  obtain ⟨moments, hplays⟩ := hact world
  rw [exec_bind]
  generalize act.exec world = outcome at hplays
  obtain ⟨result, after⟩ := outcome
  cases result with
  | error halt => exact ⟨moments, hplays⟩
  | ok value =>
      obtain ⟨more, hmore⟩ := hnext value after
      exact ⟨moments ++ more, hplays.append hmore⟩

theorem attempt {act : Act α} (hact : Traces isPresenting act) :
    Traces isPresenting (Act.attempt act) := hact

theorem pure (value : α) : Traces isPresenting (Pure.pure value : Act α) := quiet fun _ => rfl

theorem throw (halt : Halt) : Traces isPresenting (throwThe Halt halt : Act α) := quiet fun _ => rfl

theorem fail (error : Error) : Traces isPresenting (Act.fail error : Act α) := quiet fun _ => rfl

theorem session : Traces isPresenting Act.session := quiet fun _ => rfl

theorem get : Traces isPresenting (MonadState.get : Act World) := quiet fun _ => rfl

theorem changeJournal (change : Journal → Journal) :
    Traces isPresenting (Act.changeJournal change) :=
  quiet fun _ => rfl

theorem emit (event : String) : Traces isPresenting (Act.emit event) := quiet fun _ => rfl

theorem ofExcept (outcome : Except Error α) : Traces isPresenting (Act.ofExcept outcome) := by
  cases outcome with
  | ok value => exact .pure value
  | error error => exact .fail error

theorem resolve (node : Reference) : Traces isPresenting (Act.resolve node) :=
  .bind .get fun _ => .ofExcept _

/-! ## Keywords and direct changes -/

/-- A tree that is grown by one node. -/
theorem growTree {grow : Tree Callback → Except Error (NodeId × Tree Callback)}
    (h : ∀ (session : Session) (id : NodeId) (grown : Tree Callback),
      grow session.tree = .ok (id, grown) →
      ∃ call, call.isRestoration = false ∧ Steps session call { session with tree := grown }) :
    Traces isPresenting (Act.growTree grow) := by
  intro world
  rw [exec_growTree]
  cases hgrown : grow world.session.tree with
  | error error => exact ⟨[], .done _ _⟩
  | ok added =>
      obtain ⟨call, hcall, hstep⟩ := h world.session added.1 added.2 hgrown
      exact ⟨_, .single hcall hstep⟩

theorem addScreen (args : Args Callback) : Traces isPresenting (Act.growTree (·.addScreen args)) :=
  growTree fun _ _ _ hgrown => ⟨.screen _, rfl, .screen hgrown⟩

theorem addWidget (parent : NodeId) (kind : WidgetKind) (args : Args Callback) :
    Traces isPresenting (Act.growTree fun tree => tree.addWidget parent args kind) :=
  growTree fun _ _ _ hgrown => ⟨.attached _ _, rfl, .attached hgrown⟩

theorem appendWidget (kind : WidgetKind) (args : Args Callback) (strictRows : Bool) :
    Traces isPresenting (Act.growTree fun tree => tree.appendWidget kind args strictRows) :=
  growTree fun _ _ _ hgrown => ⟨.appended _, rfl, .appended hgrown⟩

theorem screen (mode : Mode) (args : Args Callback) :
    Traces isPresenting (mode.engine.screen args) := by
  cases mode with
  | exclusive => exact addScreen args
  | ambient => exact addScreen args

theorem widget (mode : Mode) (kind : WidgetKind) (args : Args Callback) :
    Traces isPresenting (mode.engine.widget kind args) := by
  intro world
  rw [exec_widget]
  cases hadded : world.session.tree.appendWidget kind args world.session.config.strictRows with
  | error error => exact ⟨[], .done _ _⟩
  | ok added => exact ⟨[.call _ (.widget added.1)], .single rfl (.widget hadded)⟩

/-- A block is opened, carried out and closed, unless its opening fails. -/
theorem withBlock {opening : Act OpenBlock} {call : NodeId → Call} {body : Act Unit}
    (hopening : ∀ world, OpensOrFails call world (opening.exec world))
    (hbody : Traces isPresenting body) :
    Traces isPresenting (Storyboard.withBlock opening body) := by
  intro world
  rw [exec_withBlock]
  have hopens := hopening world
  generalize opening.exec world = outcome at hopens
  obtain ⟨opened, inside⟩ := outcome
  cases opened with
  | error halt =>
      obtain rfl : inside = world := hopens
      exact ⟨[], .done _ _⟩
  | ok block =>
      obtain ⟨moments, hplays⟩ := hbody inside
      exact ⟨_, .block hopens hplays (.done _ _)⟩

theorem screenBlock (mode : Mode) (args : Args Callback) {body : Act Unit}
    (hbody : Traces isPresenting body) :
    Traces isPresenting (mode.engine.screenBlock args body) :=
  .of_exec_eq (.withBlock (opens_openScreen args) hbody)
    fun world => exec_screenBlock world mode args body

theorem containerBlock (mode : Mode) (kind : WidgetKind) (args : Args Callback) {body : Act Unit}
    (hbody : Traces isPresenting body) :
    Traces isPresenting (mode.engine.containerBlock kind args body) :=
  .of_exec_eq (.withBlock (opens_openContainer kind args) hbody)
    fun world => exec_containerBlock world mode kind args body

theorem editNode (reference : Reference) (changes : Changes) :
    Traces isPresenting (Storyboard.editNode reference changes) := by
  refine .bind (.resolve reference) fun id => ?_
  split
  case' h_1 => refine .bind (.pure _) fun style => ?_
  case' h_2 => refine .bind (.fail _) fun style => ?_
  case' h_3 => refine .bind (.pure _) fun style => ?_
  -- whatever has become of the style, what is left to do is to edit the node
  all_goals
    refine .bind .session fun session => ?_
    split
    · exact .fail _
    · exact .bind (.step fun _ => ⟨.edited _, rfl, .edited id _⟩) fun _ => .pure _

theorem answer (query : Query) : Traces isPresenting query.answer := by
  refine .bind .session fun session => ?_
  have hview (tree : Tree Callback) (id : NodeId) : Traces isPresenting (viewOf tree id) := by
    unfold viewOf
    split
    · exact .pure _
    · exact .throw _
  have hviews (tree : Tree Callback) (found : Option NodeId) :
      Traces isPresenting (found.mapM (viewOf tree)) := by
    cases found with
    | none => exact .pure _
    | some id => exact .bind (hview tree id) fun _ => .pure _
  cases query with
  | config | titles | walk | withId | withType | withText | withProperty => exact .pure _
  | resolve => exact .bind (.ofExcept _) fun _ => .pure _
  | records => exact .bind .get fun _ => .pure _
  | screenAt => exact .bind (.ofExcept _) fun _ => .bind (hview _ _) fun _ => .pure _
  | widgetAt =>
      exact .bind (.resolve _) fun _ => .bind (.ofExcept _) fun _ =>
        .bind (hview _ _) fun _ => .pure _
  | widgetOnScreen =>
      exact .bind (.ofExcept _) fun _ => .bind (.ofExcept _) fun _ =>
        .bind (hview _ _) fun _ => .pure _
  | lastScreen | screenWithTitle => exact .bind (hviews _ _) fun _ => .pure _
  | screenNamed => exact .bind (.resolve _) fun _ => .bind (hviews _ _) fun _ => .pure _
  | node | contains | parent | children | outlineFrom | walkFrom =>
      exact .bind (.resolve _) fun _ => .pure _

/-! ## Steps within steps -/

section Runner

variable {run : Runner}
    (hrun : ∀ isPresenting mode place step, Traces isPresenting (run mode place step))
include hrun

theorem runBlock (mode : Mode) (place : Place) (steps : List Step) :
    Traces isPresenting (Storyboard.runBlock run mode place steps) := by
  have hfrom (index : Nat) : Traces isPresenting (runFrom run mode place index steps) := by
    induction steps generalizing index with
    | nil => exact .pure _
    | cons step rest ih => exact .bind (hrun _ _ _ _) fun _ => ih (index + 1)
  exact hfrom 0

theorem call (mode : Mode) (callback : Callback) :
    Traces isPresenting (callback.call run mode) := by
  refine .bind (.emit _) fun _ => ?_
  cases mode with
  | exclusive => exact .pure _
  | ambient =>
      refine .bind (.attempt (.runBlock hrun _ _ _)) fun outcome => ?_
      split
      · exact .pure _
      · exact .pure _
      · exact .throw _

theorem click (mode : Mode) (handle : Handle Callback) :
    Traces isPresenting (handle.click run mode) := by
  refine .bind (.ofExcept _) fun press => ?_
  cases press with
  | nothing => exact .pure _
  | reaction callback => exact .call hrun mode callback
  | report event => exact .emit event

omit hrun in
theorem failWith (failure : Option String) : Traces isPresenting (Storyboard.failWith failure) := by
  cases failure with
  | none => exact .pure _
  | some reason => exact .fail _

theorem present (mode : Mode) (presenter : Presenter) (presentation : Presentation) :
    Traces isPresenting (presenter.run run mode presentation) := by
  unfold Presenter.run
  split
  · exact .bind (.changeJournal _) fun _ => .failWith _
  · exact .bind (.emit _) fun _ => .failWith _
  · refine .bind (.emit _) fun _ => ?_
    cases mode
    case' exclusive => refine .bind (.pure _) fun outcome => ?_
    case' ambient => refine .bind (.attempt (.runBlock hrun _ _ _)) fun outcome => ?_
    -- what is reported in the end depends on the outcome alone
    all_goals
      dsimp only
      split
      · exact .emit _
      · exact .bind (.emit _) fun _ => .fail _
      · exact .throw _

theorem engine_present (mode inner : Mode) (selector : Selector) :
    Traces isPresenting
      (mode.engine.present (fun presenter => presenter.run run inner) selector) := by
  cases mode with
  | exclusive =>
      change Traces isPresenting (Exclusive.present _ _)
      refine .bind .session fun session => ?_
      cases session.presenter with
      | none => exact .fail _
      | some presenter => exact .bind (.ofExcept _) fun _ => .present hrun _ _ _
  | ambient =>
      intro world
      change ∃ moments, Plays _ _ moments (exec (Ambient.present _ selector) world).2.session
      rw [exec_ambientPresent]
      cases hpresenter : world.session.presenter with
      | none => exact ⟨[], .done _ _⟩
      | some presenter =>
          cases world.session.tree.select selector with
          | error error => exact ⟨[], .done _ _⟩
          | ok entry =>
              -- the presenter is away while it presents, and comes back unless it panics
              let presentation : Presentation :=
                { tree := world.session.tree, entry := entry, title := world.session.config.title }
              have hpresent : Traces true (presenter.run run inner presentation) :=
                .present hrun inner presenter presentation
              obtain ⟨moments, hplays⟩ := hpresent { world with session := world.session.uninstall }
              dsimp only
              generalize (presenter.run run inner _).exec _ = outcome at hplays ⊢
              obtain ⟨result, ended⟩ := outcome
              have hconcluded (ending : Ending) := Plays.presentation hpresenter hplays
                (.done isPresenting (ended.session.conclude presenter world.session.tree ending))
              dsimp only
              cases Ending.of result with
              | returned => exact ⟨_, hconcluded .returned⟩
              | failed => exact ⟨_, hconcluded .failed⟩
              | panicked => exact ⟨_, hconcluded .panicked⟩

omit hrun in
theorem installPresenter (presenter : Presenter) :
    Traces isPresenting (Storyboard.installPresenter presenter) := by
  refine .bind .session fun session => ?_
  refine .bind (.step fun _ => ⟨.installed, rfl, .installed presenter⟩) fun _ => ?_
  split
  · exact .bind (.changeJournal _) fun _ => .pure _
  · exact .pure _

omit hrun in
theorem nestContainers (mode : Mode) (kind : WidgetKind) (label : String) {body : Act Unit}
    (hbody : Traces isPresenting body) (index remaining : Nat) :
    Traces isPresenting
      (Storyboard.nestContainers mode.engine kind label body index remaining) := by
  induction remaining generalizing index with
  | zero => exact hbody
  | succ remaining ih =>
      exact .bind (.containerBlock mode kind _ (ih (index + 1))) fun _ => .pure _

omit hrun in
theorem declaredAs {declare : Act NodeId} (h : Traces isPresenting declare) :
    Traces isPresenting (Storyboard.declaredAs declare) :=
  .bind h fun _ => .bind .session fun _ => .pure _

omit hrun in
theorem answering {act : Act Answer} (h : Traces isPresenting act) :
    Traces isPresenting (Storyboard.answering act) :=
  .bind h fun _ => .pure _

omit hrun in
theorem silently {act : Act Unit} (h : Traces isPresenting act) :
    Traces isPresenting (Storyboard.silently act) :=
  .bind h fun _ => .pure _

/-- Whatever a step says, it is done by calls. -/
theorem perform (mode : Mode) (place : Place) (action : Action Step) :
    Traces isPresenting (Storyboard.perform run mode place action) := by
  have hblock (mode : Mode) (steps : List Step) :
      Traces isPresenting (Storyboard.runBlock run mode place steps) :=
    .runBlock hrun mode place steps
  have hread (args : Draft Step) {α : Type} {next : Args Callback → Act α}
      (h : ∀ args, Traces isPresenting (next args)) :
      Traces isPresenting (Act.ofExcept (args.read place) >>= next) :=
    .bind (.ofExcept _) h
  cases action with
  | screen args => exact hread args fun args => .declaredAs (.screen mode args)
  | widget kind args => exact hread args fun args => .declaredAs (.widget mode kind args)
  | screenBlock args body =>
      exact hread args fun args => .declaredAs (.screenBlock mode args (hblock mode body))
  | containerBlock kind args body =>
      exact hread args fun args => .declaredAs (.containerBlock mode kind args (hblock mode body))
  | nest kind label depth body =>
      cases depth with
      | zero => exact .silently (hblock mode body)
      | succ depth =>
          exact .declaredAs
            (.containerBlock mode _ _ (.nestContainers mode _ _ (hblock mode body) _ _))
  | addScreen args => exact hread args fun args => .declaredAs (.addScreen args)
  | addWidget parent kind args =>
      exact hread args fun args => .bind (.resolve parent) fun parent =>
        .declaredAs (.addWidget parent kind args)
  | appendWidget kind args strictRows =>
      exact hread args fun args => .declaredAs (.appendWidget kind args strictRows)
  | edit node changes => exact .answering (.editNode node changes)
  | reset => exact .silently (.step fun _ => ⟨.reset, rfl, .reset⟩)
  | setConvention convention =>
      exact .answering
        (.bind (.step fun _ => ⟨.conventionSet, rfl, .conventionSet convention⟩) fun _ => .pure _)
  | fail reason => exact .fail _
  | panic message => exact .throw _
  | group body => exact .silently (hblock mode body)
  | catchPanic body =>
      refine .answering (.bind (.attempt (hblock mode body)) fun outcome => ?_)
      split
      · exact .pure _
      · exact .pure _
      · exact .throw _
  | exclusively body => exact .silently (hblock .exclusive body)
  | install presenter => exact .answering (.installPresenter _)
  | uninstall =>
      exact .answering (.bind .session fun _ =>
        .bind (.step fun _ => ⟨.uninstalled, rfl, .uninstalled⟩) fun _ => .pure _)
  | present selector => exact .silently (.engine_present hrun mode mode selector)
  | click node =>
      exact .silently (.bind (.resolve node) fun _ => .bind .session fun _ =>
        .bind (.ofExcept _) fun _ => .click hrun mode _)
  | readText node =>
      exact .answering (.bind (.resolve node) fun _ => .bind .session fun _ =>
        .bind (.ofExcept _) fun _ => .bind (.ofExcept _) fun _ => .pure _)
  | react node =>
      refine .answering (.bind (.resolve node) fun id => .bind .session fun session => ?_)
      cases (session.tree.get? id).bind (·.onClick) with
      | none => exact .pure _
      | some callback => exact .bind (.call hrun mode callback) fun _ => .pure _
  | ask query => exact .answering (.answer query)

theorem runStepWith (mode : Mode) (place : Place) (step : Step) :
    Traces isPresenting (Storyboard.runStepWith run mode place step) := by
  refine .bind (.attempt (.perform hrun mode place step.action)) fun outcome => ?_
  have hrecord (answer : Answer) : Traces isPresenting (record place step.name answer) :=
    .quiet fun _ => rfl
  -- a failed step is recorded, and fails unless it is tolerant
  split
  · refine .bind ?_ fun _ => hrecord _
    unfold bindName
    split
    · exact .changeJournal _
    · exact .pure _
  · refine .bind (hrecord _) fun _ => ?_
    split
    · exact .pure _
    · exact .fail _
  · exact .throw _

end Runner

/-- To any depth, a step works on the session by calls. -/
theorem runStep (isPresenting : Bool) (depth : Nat) (mode : Mode) (place : Place) (step : Step) :
    Traces isPresenting (Storyboard.runStep depth mode place step) := by
  induction depth generalizing isPresenting mode place step with
  | zero => exact .throw _
  | succ depth ih => exact .runStepWith ih mode place step

theorem runTop (depth : Nat) (mode : Mode) (index : Nat) (steps : List Step) :
    Traces isPresenting (Storyboard.runTop depth mode index steps) := by
  have htop (index : Nat) (step : Step) :
      Traces isPresenting (runTopStep depth mode index step) := by
    refine .bind (.attempt (.runStep _ depth mode _ step)) fun outcome => ?_
    -- only an exhausted depth ends the script
    split
    · exact .pure _
    · exact .pure _
    · exact .quiet fun _ => rfl
    · exact .throw _
  induction steps generalizing index with
  | nil => exact .pure _
  | cons step rest ih => exact .bind (htop index step) fun _ => ih (index + 1)

end Act.Traces

/-- The program of an act that does everything by calls and presentations. -/
noncomputable def Program.ofTraces (act : Act α) (h : act.Traces false) : Program α where
  act := act
  calls world := (h.runs world).choose
  runs world := (h.runs world).choose_spec

/-- A block of steps as a program. -/
noncomputable def Program.ofSteps (depth : Nat) (mode : Mode) (place : Place) (steps : List Step) :
    Program Unit :=
  .ofTraces (runBlock (runStep depth) mode place steps)
    (.runBlock (fun isPresenting => Act.Traces.runStep isPresenting depth) mode place steps)

/-- The session in which a script ends is one in which a program can be. -/
theorem Script.staged {depth : Nat} {script : Script} {world : World}
    (h : script.run? depth = some world) :
    ∃ moments, Staged script.config false moments world.session := by
  have htraces : Act.Traces false (runTop depth script.mode 0 script.steps) := .runTop _ _ _ _
  obtain ⟨moments, hplays⟩ := htraces script.start
  have hexec : ((runTop depth script.mode 0 script.steps).exec script.start).2 = world := by
    unfold Script.run? at h
    change (match (runTop depth script.mode 0 script.steps).exec script.start with
      | (.ok (), world) => some world
      | (.error _, _) => none) = some world at h
    split at h
    · next heq =>
        rw [heq]
        exact Option.some.inj h
    · cases h
  exact ⟨[] ++ moments, .run .start (hexec ▸ hplays)⟩

theorem Script.reached {depth : Nat} {script : Script} {world : World}
    (h : script.run? depth = some world) : ∃ calls, Reached script.config calls world.session := by
  obtain ⟨moments, hstaged⟩ := Script.staged h
  exact hstaged.reached

end Storyboard
