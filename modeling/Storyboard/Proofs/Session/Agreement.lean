import Storyboard.Proofs.Session.Acts
import Storyboard.Proofs.Session.Inert

/-!
# Acts that agree

Two acts agree if they do the same in every inert session.  Agreement goes through sequencing,
catching and blocks, and the keywords of the two forms agree with each other.  The one keyword that
the two forms carry out differently is the presentation: where one works on the tree in place, the
other takes the presenter out and puts it back.  An inert presenter does nothing in between but
write into the journal (`Presenter.exec_run`), so it is put back as it was
(`Session.restore_uninstall`).
-/

namespace Storyboard

variable {α β : Type}

/-- A value with the property, or a halt that is not for want of depth. -/
def Ends (post : α → Prop) : Except Halt α → Prop
  | .ok value => post value
  | .error halt => halt ≠ .exhausted

/-- In an inert session the two acts do the same.  The session stays inert, the depth suffices, and
a value that comes out has the property. -/
def Act.Agree (post : α → Prop) (first second : Act α) : Prop :=
  ∀ world, world.session.Inert → first.exec world = second.exec world ∧
    (second.exec world).2.session.Inert ∧ Ends post (second.exec world).1

/-- The two acts agree, and nothing is said about a value that comes out. -/
abbrev Act.Alike (first second : Act α) : Prop :=
  Agree (fun _ => True) first second

namespace Act.Agree

/-! ## Putting acts together -/

section Combinators

variable {post : α → Prop} {first second : Act α}

/-- An act that leaves the session alone agrees with itself. -/
theorem quiet {act : Act α} (hsession : ∀ world, (act.exec world).2.session = world.session)
    (hends : ∀ world, Ends post (act.exec world).1) : Agree post act act := by
  intro world h
  rw [hsession]
  exact ⟨rfl, h, hends world⟩

theorem of_exec_eq {first' second' : Act α} (h : Agree post first second)
    (hfirst : ∀ world, world.session.Inert → first'.exec world = first.exec world)
    (hsecond : ∀ world, world.session.Inert → second'.exec world = second.exec world) :
    Agree post first' second' := by
  intro world hworld
  rw [hfirst world hworld, hsecond world hworld]
  exact h world hworld

theorem bind {finish : β → Prop} {next next' : α → Act β} (h : Agree post first second)
    (hnext : ∀ value, post value → Agree finish (next value) (next' value)) :
    Agree finish (first >>= next) (second >>= next') := by
  intro world hworld
  obtain ⟨heq, hinert, hends⟩ := h world hworld
  rw [exec_bind, exec_bind, heq]
  generalize second.exec world = outcome at hinert hends
  obtain ⟨result, after⟩ := outcome
  cases result with
  | error halt => exact ⟨rfl, hinert, hends⟩
  | ok value => exact hnext value hends after hinert

theorem attempt (h : Agree post first second) :
    Agree (Ends post) (Act.attempt first) (Act.attempt second) := by
  intro world hworld
  obtain ⟨heq, hinert, hends⟩ := h world hworld
  rw [exec_attempt, exec_attempt, heq]
  exact ⟨rfl, hinert, hends⟩

theorem pure {value : α} (h : post value) : Agree post (Pure.pure value) (Pure.pure value) :=
  quiet (fun _ => rfl) fun _ => h

theorem throw {halt : Halt} (h : halt ≠ .exhausted) :
    Agree post (throwThe Halt halt) (throwThe Halt halt) :=
  quiet (fun _ => rfl) fun _ => h

theorem fail (error : Error) : Agree post (Act.fail error) (Act.fail error) :=
  throw (by simp)

theorem ofExcept {outcome : Except Error α} (h : ∀ value, outcome = .ok value → post value) :
    Agree post (Act.ofExcept outcome) (Act.ofExcept outcome) := by
  cases outcome with
  | ok value => exact pure (h value rfl)
  | error error => exact fail error

end Combinators

theorem session : Agree Session.Inert Act.session Act.session :=
  fun _ hworld => ⟨rfl, hworld, hworld⟩

theorem get : Alike (MonadState.get : Act World) MonadState.get :=
  quiet (fun _ => rfl) fun _ => trivial

theorem changeSession {change : Session → Session}
    (h : ∀ session, session.Inert → (change session).Inert) :
    Alike (Act.changeSession change) (Act.changeSession change) :=
  fun world hworld => ⟨rfl, h world.session hworld, trivial⟩

theorem changeJournal (change : Journal → Journal) :
    Alike (Act.changeJournal change) (Act.changeJournal change) :=
  quiet (fun _ => rfl) fun _ => trivial

theorem emit (event : String) : Alike (Act.emit event) (Act.emit event) :=
  changeJournal _

theorem resolve (node : Reference) : Alike (Act.resolve node) (Act.resolve node) :=
  .bind .get fun _ _ => .ofExcept fun _ _ => trivial

/-! ## Keywords -/

section Keywords

variable (mode other : Mode) {args : Args Callback} {body body' : Act Unit}

theorem growTree {grow : Tree Callback → Except Error (NodeId × Tree Callback)}
    (h : ∀ tree id grown, tree.Inert → grow tree = .ok (id, grown) → grown.Inert) :
    Alike (Act.growTree grow) (Act.growTree grow) := by
  intro world hworld
  refine ⟨rfl, ?_⟩
  rw [exec_growTree]
  cases hgrown : grow world.session.tree with
  | error error => exact ⟨hworld, by simp [Ends]⟩
  | ok added => exact ⟨hworld.withTree (h _ _ _ hworld.tree hgrown), trivial⟩

theorem addScreen (hargs : args.Inert) :
    Alike (Act.growTree (·.addScreen args)) (Act.growTree (·.addScreen args)) :=
  .growTree fun _ _ _ htree hgrown => htree.addScreen hargs hgrown

theorem declareWidget (kind : WidgetKind) (hargs : args.Inert) :
    Alike (Storyboard.declareWidget kind args) (Storyboard.declareWidget kind args) :=
  .bind .session fun _ _ =>
    .bind (.growTree fun _ _ _ htree hgrown => htree.appendWidget hargs hgrown) fun _ _ =>
      .bind (.changeSession fun _ hsession => hsession.bindNode _) fun _ _ => .pure trivial

theorem enterScope (enter : Context → Scope × Context) :
    Alike (Storyboard.enterScope enter) (Storyboard.enterScope enter) :=
  fun _ hworld => ⟨rfl, hworld.withTree hworld.tree, trivial⟩

/-- A block is closed in the same way if its bodies end in the same way. -/
theorem withBlock {declare : Act NodeId} {enter : NodeId → Context → Scope × Context}
    (hdeclare : Alike declare declare) (hbody : Alike body body') :
    Alike (Storyboard.withBlock (openWith declare enter) body)
      (Storyboard.withBlock (openWith declare enter) body') := by
  have hopening : Alike (openWith declare enter) (openWith declare enter) :=
    .bind .session fun _ _ => .bind hdeclare fun _ _ => .bind (.enterScope _) fun _ _ =>
      .pure trivial
  refine .bind hopening fun block _ => .bind (.attempt hbody) fun outcome houtcome => ?_
  refine .bind (.changeSession fun _ hsession => hsession.close block _) fun _ _ => ?_
  cases outcome with
  | ok value => exact .pure trivial
  | error halt => exact .throw houtcome

/-- A screen without a block, whatever the two forms are. -/
theorem screen (hargs : args.Inert) :
    Alike (mode.engine.screen args) (other.engine.screen args) := by
  cases mode <;> cases other <;> exact .addScreen hargs

theorem widget (kind : WidgetKind) (hargs : args.Inert) :
    Alike (mode.engine.widget kind args) (other.engine.widget kind args) := by
  cases mode <;> cases other <;> exact .declareWidget kind hargs

theorem screenBlock (hargs : args.Inert) (hbody : Alike body body') :
    Alike (mode.engine.screenBlock args body) (other.engine.screenBlock args body') :=
  of_exec_eq (.withBlock (.addScreen hargs) hbody)
    (fun world _ => exec_screenBlock world mode args body)
    fun world _ => exec_screenBlock world other args body'

theorem containerBlock (kind : WidgetKind) (hargs : args.Inert) (hbody : Alike body body') :
    Alike (mode.engine.containerBlock kind args body)
      (other.engine.containerBlock kind args body') :=
  of_exec_eq (.withBlock (.declareWidget kind hargs) hbody)
    (fun world _ => exec_containerBlock world mode kind args body)
    fun world _ => exec_containerBlock world other kind args body'

end Keywords

end Act.Agree

/-! ## Acts that only write -/

/-- The act changes nothing but the journal, and how it ends and what it writes do not depend on the
session. -/
def Act.Writes (act : Act α) : Prop :=
  ∃ (outcome : Except Error α) (change : Journal → Journal), ∀ session journal,
    act.exec { session := session, journal := journal } =
      (outcome.mapError .failed, { session := session, journal := change journal })

namespace Act.Writes

theorem bind {act : Act α} {next : α → Act β} (hact : Writes act)
    (hnext : ∀ value, Writes (next value)) : Writes (act >>= next) := by
  obtain ⟨outcome, change, hexec⟩ := hact
  cases outcome with
  | error error =>
      refine ⟨.error error, change, fun session journal => ?_⟩
      rw [exec_bind, hexec]
      rfl
  | ok value =>
      obtain ⟨outcome, further, hfurther⟩ := hnext value
      refine ⟨outcome, fun journal => further (change journal), fun session journal => ?_⟩
      rw [exec_bind, hexec]
      exact hfurther session (change journal)

theorem changeJournal (change : Journal → Journal) : Writes (Act.changeJournal change) :=
  ⟨.ok (), change, fun _ _ => rfl⟩

theorem failWith (failure : Option String) : Writes (Storyboard.failWith failure) := by
  cases failure with
  | none => exact ⟨.ok (), id, fun _ _ => rfl⟩
  | some reason => exact ⟨.error (.invalidArguments reason), id, fun _ _ => rfl⟩

theorem agree {act : Act α} (h : Writes act) : Alike act act := by
  obtain ⟨outcome, change, hexec⟩ := h
  rintro ⟨session, journal⟩ hworld
  rw [hexec]
  refine ⟨rfl, hworld, ?_⟩
  cases outcome with
  | ok value => trivial
  | error error => simp [Except.mapError, Ends]

end Act.Writes

/-! ## Presentations -/

/-- A presenter that was away while nothing was declared is put back as if it had stayed. -/
theorem Session.restore_uninstall {session : Session} {presenter : Presenter}
    (h : session.presenter = some presenter) :
    session.uninstall.restore presenter session.tree = session := by
  obtain ⟨tree, installed, config⟩ := session
  obtain rfl : installed = some presenter := h
  -- every node was there before, so none is given its behaviour anew
  have hnodes : (tree.nodes.mapValues fun id node =>
      if !node.isScreen && !tree.contains id then rebind presenter node else node)
        = tree.nodes := by
    unfold Registry.mapValues
    congr 1
    refine (List.map_congr_left fun entry hentry => ?_).trans (List.map_id _)
    have hcontains : tree.contains entry.1 = true :=
      (tree.nodes.mem_keys_iff entry.1).mp (List.mem_map_of_mem hentry)
    simp [hcontains]
  simp only [Session.restore, Session.uninstall, Session.rebindAll, hnodes]

namespace Presenter

variable {presenter : Presenter} (presentation : Presentation)

/-- Without steps to run, a presenter does the same in both modes. -/
theorem exec_run (h : presenter.Inert) (run run' : Runner) (mode : Mode) (world : World) :
    (presenter.run run mode presentation).exec world =
      (presenter.run run' .exclusive presentation).exec world := by
  obtain ⟨kind, tag, failure, steps, behaviour, place⟩ := presenter
  obtain rfl : steps = [] := h.steps
  cases mode <;> cases kind <;> rfl

theorem writes_run (run : Runner) : (presenter.run run .exclusive presentation).Writes := by
  unfold Presenter.run
  cases presenter.kind with
  | recording =>
      refine .bind ?_ fun _ => .failWith _
      unfold keepRecord
      exact .changeJournal _
  | reporting => exact .bind (.changeJournal _) fun _ => .failWith _
  | scripted =>
      -- in between nothing is run
      have hwrites (before after : String) :
          Act.Writes (Act.emit before >>= fun _ => Act.emit after) :=
        .bind (.changeJournal _) fun _ => .changeJournal _
      exact hwrites _ _

end Presenter

namespace Act

/-- A presentation in an inert session, in either form. -/
theorem exec_present {world : World} (h : world.session.Inert) (run run' : Runner) (mode : Mode)
    (selector : Selector) :
    exec (mode.engine.present (fun presenter => presenter.run run mode) selector) world =
      exec (Exclusive.present (fun presenter => presenter.run run' .exclusive) selector) world := by
  cases mode with
  | exclusive =>
      refine (exec_exclusivePresent _ selector world).trans ?_
      rw [exec_exclusivePresent]
      cases hpresenter : world.session.presenter with
      | none => rfl
      | some presenter =>
          cases hentry : world.session.tree.select selector with
          | error error => rfl
          | ok entry => exact Presenter.exec_run _ (h.presenter presenter hpresenter) run run' _ _
  | ambient =>
      refine (exec_ambientPresent _ selector world).trans ?_
      rw [exec_exclusivePresent]
      cases hpresenter : world.session.presenter with
      | none => rfl
      | some presenter =>
          cases hentry : world.session.tree.select selector with
          | error error => rfl
          | ok entry =>
              obtain ⟨outcome, change, hexec⟩ := Presenter.writes_run
                { tree := world.session.tree, entry := entry, title := world.session.config.title }
                run'
              have hrestore := Session.restore_uninstall hpresenter
              dsimp only
              rw [Presenter.exec_run _ (h.presenter presenter hpresenter) run run', hexec, hexec]
              cases outcome with
              | ok value => simp only [Except.mapError, Ending.of, hrestore]
              | error error => simp only [Except.mapError, Ending.of, hrestore]

theorem Agree.present (mode other : Mode) (run run' : Runner) (selector : Selector) :
    Alike (mode.engine.present (fun presenter => presenter.run run mode) selector)
      (other.engine.present (fun presenter => presenter.run run' other) selector) := by
  have hexclusive : Alike
      (Exclusive.present (fun presenter => presenter.run run .exclusive) selector)
      (Exclusive.present (fun presenter => presenter.run run .exclusive) selector) := by
    refine .bind .session fun session _ => ?_
    cases session.presenter with
    | none => exact .fail _
    | some presenter =>
        exact .bind (.ofExcept fun _ _ => trivial) fun _ _ => (Presenter.writes_run _ run).agree
  exact of_exec_eq hexclusive (fun _ hworld => exec_present hworld run run mode selector)
    fun _ hworld => exec_present hworld run' run other selector

end Act

end Storyboard
