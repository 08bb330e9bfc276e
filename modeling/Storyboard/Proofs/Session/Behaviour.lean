import Storyboard.Proofs.Session.Failure
import Storyboard.Proofs.Session.Staging

/-!
# Widgets behave as the installed presenter says

A widget gets its behaviour in one of four ways: it is declared without one, the installed presenter
gives it one when it is declared, a presenter gives every widget one when it is installed, and one
that is put back after a presentation does so for the widgets that are new since.  If nothing is
changed past the presenter and no presenter gets lost during a presentation, these four are enough:
whenever a presenter is installed, every widget behaves as it says (`Staged.inStep`).

The point is what is left out when a presenter is put back.  If no other presenter is installed by
then, none was all the time (`Plays.untouched`), so the widgets that are not new still have the
behaviour from before.
-/

namespace Storyboard

open Storyboard.Tree

/-- The moment changes nothing past the presenter and loses none during a presentation: no node is
edited, added to the tree directly or attached by hand, no presenter is taken away during a
presentation and no presentation ends in a panic. -/
def Moment.isOrderly : Moment → Bool
  | .call isPresenting .uninstalled => !isPresenting
  | .call _ (.appended _) | .call _ (.attached _ _) | .call _ (.edited _) => false
  | .presented .panicked => false
  | _ => true

/-- Whether a presenter is installed. -/
def Moment.isInstallation : Moment → Bool
  | .call _ .installed => true
  | _ => false

/-- Every widget behaves as the installed presenter says, if there is one. -/
def Session.InStep (session : Session) : Prop :=
  ∀ presenter, session.presenter = some presenter →
    session.tree.Holds fun node => node.isScreen = false → node.handle = presenter.bind node

/-- No presenter is installed, and no node has a behaviour. -/
structure Session.Unbound (session : Session) : Prop where
  presenter_eq : session.presenter = none
  handles : session.tree.Holds fun node => node.handle = .unbound

theorem Node.handle_ofArgs {κ : Type} (kind : NodeKind) (convention : IdConvention)
    (args : Args κ) :
    (ofArgs kind convention args).handle = .unbound := by
  cases args with
  | text value => cases kind <;> rfl
  | attributes given => rfl

theorem Node.isScreen_ofArgs_screen {κ : Type} (convention : IdConvention) (args : Args κ) :
    (ofArgs .screen convention args).isScreen = true := by
  cases args with
  | text value => rfl
  | attributes given => rfl

/-- What a node does already makes no difference to what it is given to do. -/
theorem Presenter.bind_rebind (presenter other : Presenter) (node : Node Callback) :
    presenter.bind (Session.rebind other node) = presenter.bind node := rfl

namespace Session

/-! ## Single changes -/

theorem presenter_bindNode (session : Session) (id : NodeId) :
    (session.bindNode id).presenter = session.presenter := by
  unfold bindNode
  split
  · rfl
  · rfl

/-- The node of a widget that has been declared. -/
theorem get?_declare (session : Session) (parent : NodeId) (node : Node Callback) (id : NodeId) :
    ({ session with tree := (session.tree.insertChild parent node).2 }.bindNode
        session.tree.fresh).tree.get? id
      = if id = session.tree.fresh then
          some (match session.presenter with
            | none => node
            | some presenter => rebind presenter node)
        else session.tree.get? id := by
  unfold bindNode
  dsimp only
  cases session.presenter with
  | none => exact session.tree.get?_insertChild node parent id
  | some presenter =>
      dsimp only
      have hmodified : ((session.tree.insertChild parent node).2.modify session.tree.fresh
          (rebind presenter)).get? id
          = if id = session.tree.fresh then
              ((session.tree.insertChild parent node).2.get? id).map (rebind presenter)
            else (session.tree.insertChild parent node).2.get? id := Registry.get?_modify _ _ _ _
      rw [hmodified, get?_insertChild]
      by_cases hid : id = session.tree.fresh <;> simp [hid]

namespace InStep

variable {session : Session}

theorem withScreen (h : session.InStep) {node : Node Callback} (hscreen : node.isScreen = true) :
    { session with tree := session.tree.withScreen node }.InStep := by
  intro presenter hpresenter
  apply (h presenter hpresenter).withScreen
  intro hwidget
  rw [hscreen] at hwidget
  cases hwidget

/-- A widget that is declared gets its behaviour from the installed presenter. -/
theorem declare (h : session.InStep) (parent : NodeId) (node : Node Callback) :
    ({ session with tree := (session.tree.insertChild parent node).2 }.bindNode
      session.tree.fresh).InStep := by
  intro presenter hpresenter
  rw [presenter_bindNode] at hpresenter
  have hinstalled : session.presenter = some presenter := hpresenter
  refine (h presenter hinstalled).of_new (fun _ => ?_) (session.get?_declare parent node)
  rw [hinstalled]
  exact (presenter.bind_rebind presenter node).symm

theorem install (session : Session) (presenter : Presenter) :
    (session.install presenter).InStep := by
  rintro other hother id node hnode hwidget
  obtain rfl : presenter = other := Option.some.inj hother
  obtain ⟨old, -, rfl⟩ := Option.map_eq_some_iff.mp
    ((Registry.get?_mapValues session.tree.nodes _ id).symm.trans hnode)
  split at hwidget
  · next hchanged =>
      rw [if_pos hchanged]
      exact (presenter.bind_rebind presenter old).symm
  · next hkept => simp [hwidget] at hkept

theorem close (h : session.InStep) (block : OpenBlock) (ending : Ending) :
    (block.close ending session).InStep := by
  intro presenter hpresenter
  cases ending with
  | returned => exact h presenter hpresenter
  | panicked => exact h presenter hpresenter
  | failed =>
      have hleft : (session.tree.leave block.scope).Holds fun node =>
          node.isScreen = false → node.handle = presenter.bind node := h presenter hpresenter
      exact hleft.rollback _ _

end InStep

namespace Unbound

variable {session : Session}

theorem withScreen (h : session.Unbound) {node : Node Callback} (hnode : node.handle = .unbound) :
    { session with tree := session.tree.withScreen node }.Unbound :=
  ⟨h.presenter_eq, h.handles.withScreen hnode⟩

/-- Without a presenter a widget that is declared gets no behaviour. -/
theorem declare (h : session.Unbound) (parent : NodeId) {node : Node Callback}
    (hnode : node.handle = .unbound) :
    ({ session with tree := (session.tree.insertChild parent node).2 }.bindNode
      session.tree.fresh).Unbound := by
  refine ⟨(presenter_bindNode _ _).trans h.presenter_eq, ?_⟩
  refine h.handles.of_new ?_ (session.get?_declare parent node)
  rw [h.presenter_eq]
  exact hnode

theorem close (h : session.Unbound) (block : OpenBlock) (ending : Ending) :
    (block.close ending session).Unbound := by
  cases ending with
  | returned => exact ⟨h.presenter_eq, h.handles⟩
  | panicked => exact ⟨h.presenter_eq, h.handles⟩
  | failed =>
      have hleft : (session.tree.leave block.scope).Holds fun node => node.handle = .unbound :=
        h.handles
      exact ⟨h.presenter_eq, hleft.rollback _ _⟩

end Unbound

end Session

/-! ## Calls -/

section Calls

variable {isPresenting : Bool} {session next inside : Session} {call : Call} {block : OpenBlock}

theorem Steps.inStep (h : Steps session call next) (hcall : call.isRestoration = false)
    (horderly : (Moment.call isPresenting call).isOrderly = true) (hsession : session.InStep) :
    next.InStep := by
  cases h with
  | screen h =>
      obtain ⟨rfl, rfl⟩ := addScreen_eq_ok h
      exact hsession.withScreen (Node.isScreen_ofArgs_screen _ _)
  | widget h =>
      obtain ⟨parent, -, rfl, rfl⟩ := appendWidget_eq_ok h
      exact hsession.declare _ _
  | reset => exact fun _ _ => .clear _
  | appended | attached | edited => cases horderly
  | conventionSet => exact hsession
  | installed presenter => exact .install session presenter
  | uninstalled =>
      -- `InStep` asks nothing of a session without a presenter
      intro presenter hpresenter
      cases hpresenter
  | restored => cases hcall

theorem Opens.inStep (h : Opens session call block inside) (hsession : session.InStep) :
    inside.InStep := by
  cases h with
  | screen h =>
      obtain ⟨rfl, rfl⟩ := addScreen_eq_ok h
      exact hsession.withScreen (Node.isScreen_ofArgs_screen _ _)
  | @container kind args id grown h =>
      obtain ⟨parent, -, rfl, rfl⟩ := appendWidget_eq_ok h
      exact hsession.declare parent (Node.ofArgs (.widget kind) session.tree.convention args)

theorem Steps.unbound (h : Steps session call next)
    (hinstalled : (Moment.call isPresenting call).isInstallation = false)
    (hcall : call.isRestoration = false)
    (horderly : (Moment.call isPresenting call).isOrderly = true)
    (hsession : session.Unbound) : next.Unbound := by
  cases h with
  | screen h =>
      obtain ⟨rfl, rfl⟩ := addScreen_eq_ok h
      exact hsession.withScreen (Node.handle_ofArgs _ _ _)
  | widget h =>
      obtain ⟨parent, -, rfl, rfl⟩ := appendWidget_eq_ok h
      exact hsession.declare _ (Node.handle_ofArgs _ _ _)
  | reset => exact ⟨hsession.presenter_eq, .clear _⟩
  | appended | attached | edited => cases horderly
  | conventionSet => exact ⟨hsession.presenter_eq, hsession.handles⟩
  | installed => cases hinstalled
  | uninstalled => exact ⟨rfl, hsession.handles⟩
  | restored => cases hcall

theorem Opens.unbound (h : Opens session call block inside) (hsession : session.Unbound) :
    inside.Unbound := by
  cases h with
  | screen h =>
      obtain ⟨rfl, rfl⟩ := addScreen_eq_ok h
      exact hsession.withScreen (Node.handle_ofArgs _ _ _)
  | @container kind args id grown h =>
      obtain ⟨parent, -, rfl, rfl⟩ := appendWidget_eq_ok h
      have hdeclared := hsession.declare parent
        (Node.handle_ofArgs (.widget kind) session.tree.convention args)
      exact ⟨hdeclared.presenter_eq, hdeclared.handles⟩

/-! ## Presentations that install nothing -/

/-- Nothing was installed in between if no presenter is installed in the end, and what is left of
the old nodes is as it was. -/
def Untouched (session last : Session) : Prop :=
  last.presenter = none →
    session.presenter = none ∧ Keeps (fun node => node) session.tree last.tree

theorem Untouched.trans {middle last : Session} (hfirst : Untouched session middle)
    (hsecond : Untouched middle last) : Untouched session last := by
  intro hlast
  obtain ⟨hmiddle, hkept⟩ := hsecond hlast
  obtain ⟨hsession, hkept'⟩ := hfirst hmiddle
  exact ⟨hsession, hkept'.trans hkept⟩

theorem Steps.untouched (h : Steps session call next) (hcall : call.isRestoration = false)
    (horderly : (Moment.call true call).isOrderly = true) : Untouched session next := by
  intro hnext
  have hedited (id : NodeId) : .edited id ∉ [call] := by
    intro hmem
    rw [← List.mem_singleton.mp hmem] at horderly
    cases horderly
  -- a presenter that is installed is there afterwards
  have hbinding : call.isBinding = false := by
    cases h with
    | installed presenter => cases hnext
    | restored => cases hcall
    | _ => rfl
  refine ⟨?_, h.keeps ⟨hedited, fun other hother hbinds => ?_⟩⟩
  · cases h with
    | @widget kind args id grown =>
        have hsame := Session.presenter_bindNode { session with tree := grown } id
        exact hsame.symm.trans hnext
    | uninstalled => cases horderly
    | installed => cases hbinding
    | restored => cases hbinding
    | _ => exact hnext
  · rw [List.mem_singleton.mp hother, hbinding] at hbinds
    cases hbinds

theorem Opens.untouched (h : Opens session call block inside) : Untouched session inside := by
  intro hinside
  refine ⟨?_, h.keeps⟩
  cases h with
  | screen => exact hinside
  | @container kind args id grown =>
      have hsame := Session.presenter_bindNode { session with tree := grown } id
      exact hsame.symm.trans hinside

theorem OpenBlock.untouched_close (block : OpenBlock) (ending : Ending) (ended : Session) :
    Untouched ended (block.close ending ended) := by
  intro hclosed
  refine ⟨?_, block.keeps_close ending ended⟩
  cases ending <;> exact hclosed

/-- After a presentation a presenter is installed, unless it was lost in a panic. -/
theorem Session.conclude_ne_none {presenter : Presenter} {before : Tree Callback} {ending : Ending}
    (hending : ending ≠ .panicked) (ended : Session) :
    (ended.conclude presenter before ending).presenter ≠ none := by
  have hrestored : (ended.restore presenter before).presenter ≠ none := by
    unfold restore
    split
    · next hother =>
        rw [hother]
        exact Option.some_ne_none _
    · exact Option.some_ne_none _
  cases ending with
  | panicked => exact absurd rfl hending
  | returned => exact hrestored
  | failed => exact hrestored

end Calls

/-! ## Stagings -/

theorem Moment.ending_ne_panicked {ending : Ending}
    (h : (Moment.presented ending).isOrderly = true) : ending ≠ .panicked := by
  rintro rfl
  cases h

/-- What goes on during a presentation leaves the old nodes alone, or a presenter is installed in
the end. -/
theorem Plays.untouched {session last : Session} {moments : List Moment}
    (h : Plays true session moments last) (horderly : ∀ moment ∈ moments, moment.isOrderly = true) :
    Untouched session last := by
  generalize hpresenting : true = isPresenting at h
  induction h with
  | done => exact fun hlast => ⟨hlast, .refl _⟩
  | step hcall hstep _ ih =>
      subst hpresenting
      obtain ⟨hfirst, hmore⟩ := List.forall_mem_cons.mp horderly
      exact (hstep.untouched hcall hfirst).trans (ih hmore rfl)
  | @block _ session inside ended last call block moments more ending hopens _ _ ihbody ihrest =>
      simp only [List.cons_append, List.forall_mem_cons, List.forall_mem_append] at horderly
      obtain ⟨-, hinner, -, hmore⟩ := horderly
      have hbody := ihbody hinner hpresenting
      have hrest := ihrest hmore hpresenting
      exact hopens.untouched.trans (hbody.trans ((block.untouched_close ending ended).trans hrest))
  | @presentation _ session ended last presenter moments more ending _ _ _ _ ihrest =>
      simp only [List.cons_append, List.forall_mem_cons, List.forall_mem_append] at horderly
      obtain ⟨-, -, hpresented, hmore⟩ := horderly
      -- a presentation within leaves a presenter behind
      intro hlast
      have hnone := (ihrest hmore hpresenting hlast).1
      exact absurd hnone (Session.conclude_ne_none (Moment.ending_ne_panicked hpresented) ended)

/-- A presenter that is put back finds every widget behaving as it says. -/
theorem Session.InStep.conclude {session ended : Session} {presenter : Presenter} {ending : Ending}
    (hsession : session.InStep) (hpresenter : session.presenter = some presenter)
    (horiented : session.tree.Oriented) (hbody : Untouched session.uninstall ended)
    (hended : ended.InStep) (hending : ending ≠ .panicked) :
    (ended.conclude presenter session.tree ending).InStep := by
  have hrestored : (ended.restore presenter session.tree).InStep := by
    unfold restore
    split
    · exact hended
    · next hnone =>
        obtain ⟨-, hkept⟩ := hbody hnone
        rintro other hother id node hnode hwidget
        obtain rfl : presenter = other := Option.some.inj hother
        obtain ⟨found, hfound, rfl⟩ := Option.map_eq_some_iff.mp
          ((Registry.get?_mapValues ended.tree.nodes _ id).symm.trans hnode)
        split at hwidget
        · next hnew =>
            rw [if_pos hnew]
            exact (presenter.bind_rebind presenter found).symm
        · next hold =>
            -- the node was there before the presentation, and nothing has changed it since
            rw [if_neg hold]
            have hlive : session.tree.contains id = true := by
              simpa [hwidget] using hold
            obtain ⟨old, hget, rfl⟩ :=
              hkept.view_eq id found (horiented.number_lt_next id hlive) hfound
            exact hsession presenter hpresenter id found hget hwidget
  cases ending with
  | panicked => exact absurd rfl hending
  | returned => exact hrestored
  | failed => exact hrestored

/-- An orderly program keeps the widgets in step with the presenter. -/
theorem Plays.inStep {isPresenting : Bool} {session last : Session} {moments : List Moment}
    (h : Plays isPresenting session moments last)
    (horderly : ∀ moment ∈ moments, moment.isOrderly = true) (horiented : session.tree.Oriented)
    (hsession : session.InStep) : last.InStep := by
  induction h with
  | done => exact hsession
  | step hcall hstep _ ih =>
      obtain ⟨hfirst, hmore⟩ := List.forall_mem_cons.mp horderly
      exact ih hmore (hstep.since horiented).1 (hstep.inStep hcall hfirst hsession)
  | @block _ session inside ended last call block moments more ending hopens hbody _ ihbody
      ihrest =>
      simp only [List.cons_append, List.forall_mem_cons, List.forall_mem_append] at horderly
      obtain ⟨-, hinner, -, hmore⟩ := horderly
      have hentered := (hopens.entered horiented).2.2.oriented
      have hended := ihbody hinner hentered (hopens.inStep hsession)
      obtain ⟨calls, hrun⟩ := hbody.runs
      obtain ⟨horiented', hsince⟩ := hrun.since hentered
      have hclosed := (hopens.since ending horiented horiented' hsince).1
      exact ihrest hmore hclosed (hended.close block ending)
  | @presentation _ session ended last presenter moments more ending hpresenter hbody _ ihbody
      ihrest =>
      simp only [List.cons_append, List.forall_mem_cons, List.forall_mem_append] at horderly
      obtain ⟨-, hinner, hpresented, hmore⟩ := horderly
      -- while the presenter is out there is nothing to be in step with
      have hended := ihbody hinner horiented fun _ hother => by cases hother
      have hconcluded := hsession.conclude hpresenter horiented (hbody.untouched hinner) hended
        (Moment.ending_ne_panicked hpresented)
      obtain ⟨calls, hrun⟩ := hbody.runs
      obtain ⟨between, hput⟩ := ended.runs_conclude presenter session.tree ending
      have haway : session.uninstall.tree.Oriented := horiented
      exact ihrest hmore (hput.since (hrun.since haway).1).1 hconcluded

/-- A program that installs no presenter gives no node a behaviour. -/
theorem Plays.unbound {isPresenting : Bool} {session last : Session} {moments : List Moment}
    (h : Plays isPresenting session moments last)
    (horderly : ∀ moment ∈ moments, moment.isOrderly = true)
    (hinstalled : ∀ moment ∈ moments, moment.isInstallation = false)
    (hsession : session.Unbound) : last.Unbound := by
  induction h with
  | done => exact hsession
  | step hcall hstep _ ih =>
      obtain ⟨hfirst, hmore⟩ := List.forall_mem_cons.mp horderly
      obtain ⟨hother, hlater⟩ := List.forall_mem_cons.mp hinstalled
      exact ih hmore hlater (hstep.unbound hother hcall hfirst hsession)
  | @block _ session inside ended last call block moments more ending hopens _ _ ihbody ihrest =>
      simp only [List.cons_append, List.forall_mem_cons, List.forall_mem_append]
        at horderly hinstalled
      obtain ⟨-, hinner, -, hmore⟩ := horderly
      obtain ⟨-, hwithin, -, hlater⟩ := hinstalled
      have hended := ihbody hinner hwithin (hopens.unbound hsession)
      exact ihrest hmore hlater (hended.close block ending)
  | presentation hpresenter =>
      -- there is nobody to present
      rw [hsession.presenter_eq] at hpresenter
      cases hpresenter

section Staged

variable {config : Config} {isPresenting : Bool} {moments : List Moment} {session : Session}

theorem Staged.inStep (h : Staged config isPresenting moments session)
    (horderly : ∀ moment ∈ moments, moment.isOrderly = true) : session.InStep := by
  induction h with
  | start =>
      intro presenter hpresenter
      cases hpresenter
  | run hstaged hplays ih =>
      obtain ⟨hpast, hmore⟩ := List.forall_mem_append.mp horderly
      obtain ⟨calls, hreached⟩ := hstaged.reached
      exact hplays.inStep hmore hreached.oriented (ih hpast)
  | enter _ hopens ih => exact hopens.inStep (ih (List.forall_mem_append.mp horderly).1)
  | present =>
      intro presenter hpresenter
      cases hpresenter

theorem Staged.unbound (h : Staged config isPresenting moments session)
    (horderly : ∀ moment ∈ moments, moment.isOrderly = true)
    (hinstalled : ∀ moment ∈ moments, moment.isInstallation = false) : session.Unbound := by
  induction h with
  | start => exact ⟨rfl, .ofConvention _⟩
  | run _ hplays ih =>
      obtain ⟨hpast, hmore⟩ := List.forall_mem_append.mp horderly
      obtain ⟨hearlier, hlater⟩ := List.forall_mem_append.mp hinstalled
      exact hplays.unbound hmore hlater (ih hpast hearlier)
  | enter _ hopens ih =>
      have hpast := (List.forall_mem_append.mp horderly).1
      exact hopens.unbound (ih hpast (List.forall_mem_append.mp hinstalled).1)
  | present _ hpresenter ih =>
      have hpast := (List.forall_mem_append.mp horderly).1
      rw [(ih hpast (List.forall_mem_append.mp hinstalled).1).presenter_eq] at hpresenter
      cases hpresenter

/-- Wherever an orderly program is, every widget behaves as the installed presenter says, and no
node has a behaviour if none was ever installed. -/
theorem Staged.behaves (h : Staged config isPresenting moments session)
    (horderly : ∀ moment ∈ moments, moment.isOrderly = true) :
    session.InStep ∧
      ((∀ moment ∈ moments, moment.isInstallation = false) → session.Unbound) :=
  ⟨h.inStep horderly, h.unbound horderly⟩

end Staged

/-- A presenter that gives every node its text under the tag of a guide. -/
def guide : Presenter :=
  { kind := .scripted, tag := "guide", failure := none, steps := []
    behaviour := fun node => .tagged "guide" node.text, place := [] }

/-- A session with one screen and a guide. -/
def guidedSession : Session :=
  { (Session.ofConfig {}).install guide with tree := homeSession.tree }

/-- A session whose guide has declared a button while it presented. -/
def presentedSession : Session :=
  { guidedSession.uninstall with
    tree := (guidedSession.tree.insertChild ⟨0⟩
      (Node.ofArgs (.widget .button) .alphanumeric (.text "Next"))).2 }.conclude
    guide guidedSession.tree .returned

theorem behaves_presented :
    Staged {} false
        [.call false .installed, .call false (.screen ⟨0⟩), .presenting, .call true (.widget ⟨1⟩),
          .presented .returned] presentedSession ∧
      presentedSession.presenter = some guide ∧
      presentedSession.handleOf ⟨1⟩ = .ok (.tagged "guide" "Next") ∧
      presentedSession.InStep := by
  have hscreen : ((Session.ofConfig {}).install guide).tree.addScreen (.text "Home")
      = .ok (⟨0⟩, guidedSession.tree) := rfl
  have hbutton : guidedSession.uninstall.tree.appendWidget .button (.text "Next") true
      = .ok (⟨1⟩, (guidedSession.tree.insertChild ⟨0⟩
          (Node.ofArgs (.widget .button) .alphanumeric (.text "Next"))).2) := rfl
  have hpresentation : Plays false guidedSession
      [.presenting, .call true (.widget ⟨1⟩), .presented .returned] presentedSession :=
    .presentation rfl (.single rfl (.widget hbutton)) (.done _ _)
  have hstaged := Staged.start.run
    (.step rfl (.installed guide) (.step rfl (.screen hscreen) hpresentation))
  exact ⟨hstaged, rfl, rfl, (Staged.behaves hstaged (by decide)).1⟩

end Storyboard
