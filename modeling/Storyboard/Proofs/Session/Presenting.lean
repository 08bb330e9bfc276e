import Storyboard.Proofs.Session.Behaviour
import Storyboard.Proofs.Session.Scripts

/-!
# What a presentation costs

In the exclusive form the presenter stays where it is while it presents.  In the ambient form it is
taken out, and put back by what comes after the presentation.  A presentation that returns or fails
gets that far, so that the session has its presenter again; one that panics does not, and the
presenter is lost, whoever catches the panic (`Ambient.present_presenter`).

Both are said of presentations during which no presenter is installed or taken away.  While the
presenter is out such a presentation cannot bring another one in (`Plays.presenter_eq_none`), so the
one that is put back is the one that was taken out.
-/

namespace Storyboard

/-- Whether a presenter is installed or taken away. -/
def Moment.isExchange : Moment → Bool
  | .call _ .installed | .call _ .uninstalled => true
  | _ => false

/-- In a world, the act works on the session by calls and presentations, and the presenter is not
exchanged. -/
def Act.Spares {α : Type} (isPresenting : Bool) (act : Act α) (world : World) : Prop :=
  ∃ moments, Plays isPresenting world.session moments (act.exec world).2.session ∧
    ∀ moment ∈ moments, moment.isExchange = false

/-! ## Without a presenter -/

section Absent

variable {isPresenting : Bool} {session next inside last : Session} {call : Call}
  {block : OpenBlock} {moments : List Moment}

theorem Steps.presenter_eq (h : Steps session call next) (hcall : call.isRestoration = false)
    (hspared : (Moment.call isPresenting call).isExchange = false) :
    next.presenter = session.presenter := by
  cases h with
  | widget => exact Session.presenter_bindNode _ _
  | installed | uninstalled => cases hspared
  | restored => cases hcall
  | screen | reset | appended | attached | edited | conventionSet => rfl

theorem Opens.presenter_eq (h : Opens session call block inside) :
    inside.presenter = session.presenter := by
  cases h with
  | screen => rfl
  | container => exact Session.presenter_bindNode _ _

theorem OpenBlock.presenter_close (block : OpenBlock) (ending : Ending) (ended : Session) :
    (block.close ending ended).presenter = ended.presenter := by
  cases ending <;> rfl

/-- Without a presenter there is nobody to present, and none comes in unless it is installed. -/
theorem Plays.presenter_eq_none (h : Plays isPresenting session moments last)
    (hspared : ∀ moment ∈ moments, moment.isExchange = false) (hnone : session.presenter = none) :
    last.presenter = none := by
  induction h with
  | done => exact hnone
  | step hcall hstep _ ih =>
      obtain ⟨hfirst, hmore⟩ := List.forall_mem_cons.mp hspared
      exact ih hmore ((hstep.presenter_eq hcall hfirst).trans hnone)
  | @block _ session inside ended last call block moments more ending hopens _ _ ihbody ihrest =>
      simp only [List.cons_append, List.forall_mem_cons, List.forall_mem_append] at hspared
      obtain ⟨-, hinner, -, hmore⟩ := hspared
      have hended := ihbody hinner (hopens.presenter_eq.trans hnone)
      exact ihrest hmore ((block.presenter_close ending ended).trans hended)
  | presentation hpresenter =>
      rw [hnone] at hpresenter
      cases hpresenter

end Absent

/-! ## Presentations -/

/-- The presenter is there, and the next presentation is its own. -/
structure Ready (presenter : Presenter) (world : World) : Prop where
  presenter_eq : world.session.presenter = some presenter
  presents : ∀ run selector entry, world.session.tree.select selector = .ok entry →
    ((Ambient.present run selector).exec world).1
      = ((run presenter
          { tree := world.session.tree, entry := entry, title := world.session.config.title }).exec
        { world with session := world.session.uninstall }).1

/-- There is no presenter, and nothing can be presented. -/
structure Bereft (world : World) : Prop where
  presenter_eq : world.session.presenter = none
  refuses : ∀ run selector,
    (Ambient.present run selector).exec world = (.error (.failed .presenterUnavailable), world)

theorem Ready.of_presenter {presenter : Presenter} {world : World}
    (h : world.session.presenter = some presenter) : Ready presenter world where
  presenter_eq := h
  presents run selector entry hentry := by
    rw [Act.exec_ambientPresent, h]
    simp only [hentry]
    split <;> rfl

theorem Bereft.of_presenter {world : World} (h : world.session.presenter = none) :
    Bereft world where
  presenter_eq := h
  refuses run selector := by rw [Act.exec_ambientPresent, h]

section Present

variable {run : Presenter → Presentation → Act Unit} {selector : Selector} {world : World}
  {presenter : Presenter}

/-- In the ambient form the session has its presenter again after a presentation that returns or
fails, and has lost it after one that panics. -/
theorem Ambient.present_presenter (hpresenter : world.session.presenter = some presenter)
    (hrun : ∀ entry, world.session.tree.select selector = .ok entry →
      (run presenter
        { tree := world.session.tree, entry := entry, title := world.session.config.title }).Spares
        true { world with session := world.session.uninstall }) :
    (Ending.of ((Ambient.present run selector).exec world).1 ≠ .panicked →
        Ready presenter ((Ambient.present run selector).exec world).2) ∧
      (Ending.of ((Ambient.present run selector).exec world).1 = .panicked →
        Bereft ((Ambient.present run selector).exec world).2) := by
  rw [Act.exec_ambientPresent, hpresenter]
  cases hentry : world.session.tree.select selector with
  | error error =>
      -- the presentation does not begin
      exact ⟨fun _ => .of_presenter hpresenter, fun hpanicked => by cases hpanicked⟩
  | ok entry =>
      dsimp only
      obtain ⟨moments, hplays, hspared⟩ := hrun entry hentry
      have hnone := hplays.presenter_eq_none hspared rfl
      generalize (run presenter _).exec _ = outcome at hnone ⊢
      obtain ⟨result, ended⟩ := outcome
      -- nobody else has been installed, so the presenter can be put back
      have hrestored : (ended.session.restore presenter world.session.tree).presenter
          = some presenter := by
        have habsent : ended.session.presenter = none := hnone
        unfold Session.restore
        rw [habsent]
      cases hending : Ending.of result with
      | panicked =>
          dsimp only
          exact ⟨fun hnot => absurd hending hnot, fun _ => .of_presenter hnone⟩
      | returned | failed =>
          dsimp only
          refine ⟨fun _ => .of_presenter hrestored, fun hpanicked => ?_⟩
          rw [hending] at hpanicked
          cases hpanicked

/-- A step that is carried out without a name and without tolerance. -/
def Step.plain (name : String) (action : Action Step) : Step :=
  { name := name, binding := none, isTolerant := false, action := action }

/-- A guide that declares a button while it presents, and then fails. -/
def hastyGuide : Presenter :=
  { guide with
    steps := [.plain "button" (.widget .button (.text "Next")), .plain "fail" (.fail "too late")] }

/-- A world in which that guide is installed. -/
def hastyWorld : World := { session := homeSession.install hastyGuide, journal := {} }

/-- The guide fails after it has declared a button, and stays in the session. -/
theorem present_presenter_guide :
    let run : Presenter → Presentation → Act Unit := fun presenter =>
      presenter.run (runStep 1) .ambient
    let presented := (Ambient.present run .first).exec hastyWorld
    (∀ entry, hastyWorld.session.tree.select .first = .ok entry →
      Plays true hastyWorld.session.uninstall [.call true (.widget ⟨1⟩)]
        ((run hastyGuide
            { tree := hastyWorld.session.tree, entry := entry, title := none }).exec
          { hastyWorld with session := hastyWorld.session.uninstall }).2.session) ∧
      presented.1 = .error (.failed (.invalidArguments "too late")) ∧
      presented.2.session.handleOf ⟨1⟩ = .ok (.tagged "guide" "Next") ∧
      Ready hastyGuide presented.2 := by
  intro run presented
  have hbutton : hastyWorld.session.uninstall.tree.appendWidget .button (.text "Next") true
      = .ok (⟨1⟩, (hastyWorld.session.tree.insertChild ⟨0⟩
          (Node.ofArgs (.widget .button) .alphanumeric (.text "Next"))).2) := rfl
  have hplays (entry : Option NodeId) : Plays true hastyWorld.session.uninstall
      [.call true (.widget ⟨1⟩)]
      ((run hastyGuide
          { tree := hastyWorld.session.tree, entry := entry, title := none }).exec
        { hastyWorld with session := hastyWorld.session.uninstall }).2.session :=
    .single rfl (.widget hbutton)
  have hfailed : presented.1 = .error (.failed (.invalidArguments "too late")) := rfl
  have hready := (@Ambient.present_presenter run .first hastyWorld hastyGuide rfl
    fun entry _ => ⟨_, hplays entry, by decide⟩).1
  refine ⟨fun entry _ => hplays entry, hfailed, rfl, hready ?_⟩
  show Ending.of presented.1 ≠ .panicked
  rw [hfailed]
  decide

/-- In the exclusive form a presentation leaves the whole session as it is. -/
theorem Exclusive.present_session (runner : Runner) :
    ((Exclusive.present (fun presenter => presenter.run runner .exclusive) selector).exec
      world).2.session = world.session := by
  have hrun (presenter : Presenter) (presentation : Presentation) :
      ((presenter.run runner .exclusive presentation).exec world).2.session = world.session := by
    obtain ⟨kind, tag, failure, steps, behaviour, place⟩ := presenter
    cases kind with
    | scripted => rfl
    | recording => cases failure <;> rfl
    | reporting => cases failure <;> rfl
  rw [Act.exec_exclusivePresent]
  cases world.session.presenter with
  | none => rfl
  | some presenter =>
      dsimp only
      cases world.session.tree.select selector with
      | error error => rfl
      | ok entry => exact hrun presenter _

end Present

/-- A script whose presenter panics, which is caught. -/
def panickingScript : Script where
  mode := .ambient
  config := {}
  isQuiet := true
  steps :=
    [.plain "set_runtime" (.install
      { kind := .scripted, tag := "t", failure := none, steps := [.plain "panic" (.panic "boom")],
        isUnbound := false }),
    .plain "screen" (.screen (.text "s")),
    .plain "catch_panic" (.catchPanic [.plain "app" (.present .first)])]

/-- The presenter is there until it presents; its panic is caught, and it is lost. -/
theorem presenter_lost_to_panic :
    (Script.run? 3 { panickingScript with steps := panickingScript.steps.take 2 }).map
        (·.session.presenter.isSome) = some true ∧
      (panickingScript.run? 3).map (·.session.presenter.isSome) = some false :=
  ⟨rfl, rfl⟩

end Storyboard
