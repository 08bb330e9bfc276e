import Storyboard.Proofs.Session.Presenting

/-!
# Performances

In the ambient form presentations nest: while a presenter presents, it may install another one and
have that present, and so on, with blocks in between.  A `Stage` is a session in the middle of all
this, together with the blocks and performances that are going on.  Presenters are told apart by a
number that they get when they are installed; a presenter that is installed again counts as another
one.  A stage goes on by one `Beat` at a time (`Stage.Advance`), and beats make a path
(`Stage.Path`).

Whatever a program does is a path (`Plays.path`, `Act.Traces.path`).  The invariant of paths is that
installations and performances alternate (`Stage.Orderly`): the presenter that is installed now was
installed after the innermost performance had begun, that of the innermost performance was installed
after the next outer one had begun, and so on.
-/

namespace Storyboard

/-! ## After a presentation -/

theorem Session.presenter_conclude (session : Session) (presenter : Presenter)
    (before : Tree Callback) (ending : Ending) :
    (session.conclude presenter before ending).presenter =
      match ending with
      | .panicked => session.presenter
      | .returned | .failed => session.presenter <|> some presenter := by
  have hrestore : (session.restore presenter before).presenter
      = (session.presenter <|> some presenter) := by
    unfold Session.restore
    cases hpresenter : session.presenter with
    | none => rfl
    | some other => exact hpresenter
  cases ending with
  | panicked => rfl
  | returned => exact hrestore
  | failed => exact hrestore

/-! ## Stages -/

/-- A presenter that was installed.  The number tells it from all others. -/
structure Installation where
  number : Nat
  presenter : Presenter

/-- A presentation that is going on. -/
structure Performance where
  installation : Installation
  /-- The tree that is presented. -/
  before : Tree Callback
  /-- How many presenters had been installed when it began. -/
  since : Nat

/-- Something that has begun and has not ended. -/
inductive Ongoing where
  | block (block : OpenBlock)
  | performance (performance : Performance)

def Ongoing.performance? : Ongoing → Option Performance
  | .block _ => none
  | .performance shown => some shown

/-- A session with what is known about its presenters, and with what is going on, the innermost
first. -/
structure Stage where
  session : Session
  installed : Option Installation
  /-- How many presenters have been installed so far. -/
  count : Nat
  ongoing : List Ongoing

namespace Stage

/-- A stage on which nothing has happened. -/
def start (config : Config) : Stage where
  session := .ofConfig config
  installed := none
  count := 0
  ongoing := []

/-- The performances that are going on, the innermost first. -/
def performances (stage : Stage) : List Performance := stage.ongoing.filterMap Ongoing.performance?

/-- The presenters that are presenting. -/
def presenting (stage : Stage) : List Installation := stage.performances.map (·.installation)

def install (stage : Stage) (presenter : Presenter) : Stage where
  session := stage.session.install presenter
  installed := some ⟨stage.count, presenter⟩
  count := stage.count + 1
  ongoing := stage.ongoing

def uninstall (stage : Stage) : Stage :=
  { stage with session := stage.session.uninstall, installed := none }

/-- A presenter is taken out and begins to present. -/
def begin (stage : Stage) (installation : Installation) : Stage :=
  { stage.uninstall with
    ongoing := .performance
      { installation := installation, before := stage.session.tree, since := stage.count }
      :: stage.ongoing }

/-- A performance has come to an end: its presenter is put back unless there was a panic or another
one has been installed. -/
def conclude (stage : Stage) (performance : Performance) (ending : Ending) (outer : List Ongoing) :
    Stage where
  session :=
    stage.session.conclude performance.installation.presenter performance.before ending
  installed :=
    match ending with
    | .panicked => stage.installed
    | .returned | .failed => stage.installed <|> some performance.installation
  count := stage.count
  ongoing := outer

section Ongoing

variable {stage : Stage} {outer : List Ongoing}

theorem performances_of_block {block : OpenBlock} (h : stage.ongoing = .block block :: outer) :
    stage.performances = outer.filterMap Ongoing.performance? := by
  rw [performances, h]
  rfl

theorem performances_of_performance {performance : Performance}
    (h : stage.ongoing = .performance performance :: outer) :
    stage.performances = performance :: outer.filterMap Ongoing.performance? := by
  rw [performances, h]
  rfl

theorem presenting_head? {performance : Performance}
    (h : stage.ongoing = .performance performance :: outer) :
    stage.presenting.head? = some performance.installation := by
  rw [presenting, performances_of_performance h]
  rfl

end Ongoing

/-- What was installed during a performance stays, and otherwise its presenter may be put back. -/
theorem installed_conclude (stage : Stage) (performance : Performance) (ending : Ending)
    (outer : List Ongoing) :
    (stage.conclude performance ending outer).installed = stage.installed ∨
      (stage.conclude performance ending outer).installed = some performance.installation := by
  cases ending with
  | panicked => exact Or.inl rfl
  | returned | failed =>
      cases hinstalled : stage.installed with
      | none => exact Or.inr (by rw [conclude, hinstalled]; rfl)
      | some installation => exact Or.inl (by rw [conclude, hinstalled]; rfl)

end Stage

/-- Something that happens on a stage. -/
inductive Beat where
  | call (call : Call)
  | installed (installation : Installation)
  | uninstalled
  | presenting (installation : Installation)
  | presented (installation : Installation) (ending : Ending)

def Beat.installation? : Beat → Option Installation
  | .installed installation => some installation
  | _ => none

/-- The presenters that are installed, in order. -/
def installations (beats : List Beat) : List Installation := beats.filterMap Beat.installation?

/-- Whether no presenter is lost: none is taken away, and none panics. -/
def Beat.isPeaceful : Beat → Bool
  | .uninstalled | .presented _ .panicked => false
  | _ => true

namespace Stage

/-- A stage goes on. -/
inductive Advance (stage : Stage) : Beat → Stage → Prop
  | call {call : Call} {next : Session} (hexchange : (Moment.call true call).isExchange = false)
      (hrestoration : call.isRestoration = false) (hstep : Steps stage.session call next) :
      Advance stage (.call call) { stage with session := next }
  | install (presenter : Presenter) :
      Advance stage (.installed ⟨stage.count, presenter⟩) (stage.install presenter)
  | uninstall : Advance stage .uninstalled stage.uninstall
  | opened {call : Call} {block : OpenBlock} {inside : Session}
      (hopens : Opens stage.session call block inside) :
      Advance stage (.call call)
        { stage with session := inside, ongoing := .block block :: stage.ongoing }
  | closed {block : OpenBlock} {outer : List Ongoing} (ending : Ending)
      (hongoing : stage.ongoing = .block block :: outer) :
      Advance stage (.call (.closed ending))
        { stage with session := block.close ending stage.session, ongoing := outer }
  | present {installation : Installation} (hinstalled : stage.installed = some installation) :
      Advance stage (.presenting installation) (stage.begin installation)
  | conclude {performance : Performance} {outer : List Ongoing} (ending : Ending)
      (hongoing : stage.ongoing = .performance performance :: outer) :
      Advance stage (.presented performance.installation ending)
        (stage.conclude performance ending outer)

/-- A stage goes on for some beats. -/
inductive Path : Stage → List Beat → Stage → Prop
  | done (stage : Stage) : Path stage [] stage
  | step {stage next last : Stage} {beat : Beat} {beats : List Beat}
      (hstep : Advance stage beat next)
      (hrest : Path next beats last) : Path stage (beat :: beats) last

namespace Path

variable {stage middle last : Stage}

theorem append {beats more : List Beat} (h : Path stage beats middle)
    (hmore : Path middle more last) :
    Path stage (beats ++ more) last := by
  induction h with
  | done => exact hmore
  | step hstep _ ih => exact .step hstep (ih hmore)

theorem single {beat : Beat} (h : Advance stage beat last) : Path stage [beat] last :=
  .step h (.done last)

end Path

/-! ## Installations and performances alternate -/

/-- Performances began after their presenters had been installed and before what came next was: the
bound, or the presenter of the performance further inside. -/
def Alternating : Nat → List Performance → Prop
  | _, [] => True
  | bound, performance :: outer =>
      performance.since ≤ bound ∧ performance.installation.number < performance.since ∧
        Alternating performance.installation.number outer

namespace Alternating

theorem mono {bound larger : Nat} {performances : List Performance}
    (h : Alternating bound performances) (hle : bound ≤ larger) :
    Alternating larger performances := by
  cases performances with
  | nil => trivial
  | cons performance outer => exact ⟨h.1.trans hle, h.2⟩

theorem tail {bound : Nat} {performance : Performance} {outer : List Performance}
    (h : Alternating bound (performance :: outer)) : Alternating bound outer :=
  h.2.2.mono (Nat.le_of_lt (Nat.lt_of_lt_of_le h.2.1 h.1))

theorem since_le {bound : Nat} {performances : List Performance}
    (h : Alternating bound performances) {performance : Performance}
    (hmem : performance ∈ performances) : performance.since ≤ bound := by
  induction performances generalizing bound with
  | nil => simp at hmem
  | cons inner outer ih =>
      obtain ⟨hsince, hlt, houter⟩ := h
      rcases List.mem_cons.mp hmem with rfl | hlater
      · exact hsince
      · have hle : performance.since ≤ inner.installation.number := ih houter hlater
        omega

theorem number_lt {bound : Nat} {performances : List Performance}
    (h : Alternating bound performances) {performance : Performance}
    (hmem : performance ∈ performances) : performance.installation.number < bound := by
  induction performances generalizing bound with
  | nil => simp at hmem
  | cons inner outer ih =>
      obtain ⟨hsince, hlt, houter⟩ := h
      rcases List.mem_cons.mp hmem with rfl | hlater
      · exact Nat.lt_of_lt_of_le hlt hsince
      · have hless : performance.installation.number < inner.installation.number := ih houter hlater
        omega

/-- No presenter has two performances. -/
theorem nodup {bound : Nat} {performances : List Performance}
    (h : Alternating bound performances) :
    (performances.map fun performance => performance.installation.number).Nodup := by
  induction performances generalizing bound with
  | nil => exact List.nodup_nil
  | cons inner outer ih =>
      obtain ⟨-, -, houter⟩ := h
      refine List.nodup_cons.mpr ⟨fun hmem => ?_, ih houter⟩
      obtain ⟨performance, hperformance, hsame⟩ := List.mem_map.mp hmem
      exact absurd hsame (Nat.ne_of_lt (houter.number_lt hperformance))

end Alternating

/-- What is known about the presenters is right, and installations and performances alternate. -/
structure Orderly (stage : Stage) : Prop where
  presenter_eq : stage.session.presenter = stage.installed.map (·.presenter)
  number_lt : ∀ installation, stage.installed = some installation →
    installation.number < stage.count
  alternating : Alternating ((stage.installed.map (·.number)).getD stage.count) stage.performances

namespace Orderly

variable {stage : Stage}

theorem start (config : Config) : (Stage.start config).Orderly where
  presenter_eq := rfl
  number_lt _ h := by cases h
  alternating := trivial

/-- Every performance began after no more presenters than have been installed so far. -/
theorem alternating_count (h : stage.Orderly) : Alternating stage.count stage.performances := by
  refine h.alternating.mono ?_
  cases hinstalled : stage.installed with
  | none => exact Nat.le_refl _
  | some installation => exact Nat.le_of_lt (h.number_lt installation hinstalled)

/-- To know that nothing is installed is enough. -/
theorem of_none {next : Stage} (h : stage.Orderly) (hpresenter : next.session.presenter = none)
    (hinstalled : next.installed = none) (hcount : next.count = stage.count)
    (hperformances : next.performances = stage.performances) : next.Orderly where
  presenter_eq := by rw [hpresenter, hinstalled]; rfl
  number_lt installation hsome := by
    rw [hinstalled] at hsome
    cases hsome
  alternating := by
    rw [hinstalled, hcount, hperformances]
    exact h.alternating_count

/-- Presenters are all that matters. -/
theorem congr {next : Stage} (h : stage.Orderly)
    (hpresenter : next.session.presenter = stage.session.presenter)
    (hinstalled : next.installed = stage.installed) (hcount : next.count = stage.count)
    (hperformances : next.performances = stage.performances) : next.Orderly where
  presenter_eq := by rw [hpresenter, hinstalled, h.presenter_eq]
  number_lt installation hsome := by
    rw [hcount]
    exact h.number_lt installation (hinstalled.symm.trans hsome)
  alternating := by
    rw [hinstalled, hcount, hperformances]
    exact h.alternating

theorem install (h : stage.Orderly) (presenter : Presenter) :
    (stage.install presenter).Orderly where
  presenter_eq := rfl
  number_lt installation hsome := by
    rw [← Option.some.inj hsome]
    exact Nat.lt_succ_self _
  alternating := h.alternating_count

theorem begin (h : stage.Orderly) {installation : Installation}
    (hinstalled : stage.installed = some installation) : (stage.begin installation).Orderly where
  presenter_eq := rfl
  number_lt _ hsome := by cases hsome
  alternating := by
    have houter := h.alternating
    rw [hinstalled] at houter
    have hinner : Alternating stage.count
        ({ installation := installation, before := stage.session.tree, since := stage.count }
          :: stage.performances) :=
      ⟨Nat.le_refl _, h.number_lt installation hinstalled, houter⟩
    exact hinner

theorem conclude (h : stage.Orderly) {performance : Performance} {outer : List Ongoing}
    (hongoing : stage.ongoing = .performance performance :: outer) (ending : Ending) :
    (stage.conclude performance ending outer).Orderly := by
  have hperformances := performances_of_performance hongoing
  have hinside := h.alternating
  obtain ⟨hsince, hlt, houter⟩ := hperformances ▸ h.alternating_count
  rw [hperformances] at hinside
  have hpresenter : (stage.conclude performance ending outer).session.presenter
      = (stage.conclude performance ending outer).installed.map (·.presenter) := by
    refine (Session.presenter_conclude stage.session _ _ ending).trans ?_
    rw [h.presenter_eq]
    cases ending <;> cases hinstalled : stage.installed <;> simp [Stage.conclude, hinstalled]
  -- the presenter of the performance is back, or whatever was installed inside stays
  rcases stage.installed_conclude performance ending outer with hsame | hback
  · refine ⟨hpresenter, fun installation hsome => ?_, ?_⟩
    · exact h.number_lt installation (hsame.symm.trans hsome)
    · rw [hsame]
      exact hinside.tail
  · refine ⟨hpresenter, fun installation hsome => ?_, ?_⟩
    · rw [← Option.some.inj (hback.symm.trans hsome)]
      exact Nat.lt_of_lt_of_le hlt hsince
    · rw [hback]
      exact houter

end Orderly

/-- Whatever happens, installations and performances alternate. -/
theorem Advance.orderly {stage next : Stage} {beat : Beat} (h : Advance stage beat next)
    (horderly : stage.Orderly) : next.Orderly := by
  cases h with
  | call hexchange hrestoration hstep =>
      exact horderly.congr (hstep.presenter_eq hrestoration hexchange) rfl rfl rfl
  | install presenter => exact horderly.install presenter
  | uninstall => exact horderly.of_none rfl rfl rfl rfl
  | opened hopens => exact horderly.congr hopens.presenter_eq rfl rfl rfl
  | @closed block outer ending hongoing =>
      refine horderly.congr (block.presenter_close ending stage.session) rfl rfl ?_
      exact (performances_of_block hongoing).symm
  | present hinstalled => exact horderly.begin hinstalled
  | conclude ending hongoing => exact horderly.conclude hongoing ending

/-- Wherever a stage goes on to, installations and performances alternate. -/
theorem Path.orderly {stage last : Stage} {beats : List Beat} (h : Path stage beats last)
    (horderly : stage.Orderly) : last.Orderly := by
  induction h with
  | done => exact horderly
  | step hstep _ ih => exact ih (hstep.orderly horderly)

/-! ## What is counted -/

theorem Advance.count_eq {stage next : Stage} {beat : Beat} (h : Advance stage beat next) :
    next.count = stage.count + (installations [beat]).length := by
  cases h with
  | install | call | uninstall | opened | closed | present | conclude => rfl

theorem Path.count_eq {stage last : Stage} {beats : List Beat} (h : Path stage beats last) :
    last.count = stage.count + (installations beats).length := by
  induction h with
  | done => rfl
  | @step stage next last beat beats hstep _ ih =>
      have hbeats : installations (beat :: beats) = installations [beat] ++ installations beats :=
        List.filterMap_append (l := [beat])
      rw [ih, hstep.count_eq, hbeats, List.length_append, Nat.add_assoc]

/-! ## Who comes next -/

/-- The presenter that is there, or else the one that will be put back first. -/
def current? (stage : Stage) : Option Installation := stage.installed <|> stage.presenting.head?

/-- The last of the presenters that are installed, or else the one that was there before. -/
def lastInstalled (installation : Installation) (beats : List Beat) : Installation :=
  (installations beats).getLast?.getD installation

theorem lastInstalled_cons (installation : Installation) (beat : Beat) (beats : List Beat) :
    lastInstalled installation (beat :: beats)
      = lastInstalled (lastInstalled installation [beat]) beats := by
  have hbeats : installations (beat :: beats) = installations [beat] ++ installations beats :=
    List.filterMap_append (l := [beat])
  rw [lastInstalled, lastInstalled, lastInstalled, hbeats, List.getLast?_append]
  cases (installations beats).getLast? with
  | none => simp
  | some later => simp

/-- Unless a presenter is lost, the one that was installed last is there or will be put back first.
-/
theorem Advance.current?_eq {stage next : Stage} {beat : Beat} (h : Advance stage beat next)
    (hbeat : beat.isPeaceful = true) {installation : Installation}
    (hcurrent : stage.current? = some installation) :
    next.current? = some (lastInstalled installation [beat]) := by
  cases h with
  | call | opened => exact hcurrent
  | install presenter => rfl
  | uninstall => cases hbeat
  | @closed block outer ending hongoing =>
      rw [current?, presenting, performances_of_block hongoing] at hcurrent
      exact hcurrent
  | present hinstalled =>
      rw [current?, hinstalled] at hcurrent
      exact hcurrent
  | @conclude performance outer ending hongoing =>
      have hback : (stage.conclude performance ending outer).installed = some installation := by
        rw [current?, presenting_head? hongoing] at hcurrent
        cases ending with
        | panicked => cases hbeat
        | returned => exact hcurrent
        | failed => exact hcurrent
      rw [current?, hback]
      rfl

theorem Path.current?_eq {stage last : Stage} {beats : List Beat} (h : Path stage beats last)
    (hbeats : ∀ beat ∈ beats, beat.isPeaceful = true) {installation : Installation}
    (hcurrent : stage.current? = some installation) :
    last.current? = some (lastInstalled installation beats) := by
  induction h generalizing installation with
  | done => exact hcurrent
  | step hstep _ ih =>
      obtain ⟨hbeat, hrest⟩ := List.forall_mem_cons.mp hbeats
      rw [lastInstalled_cons]
      exact ih hrest (hstep.current?_eq hbeat hcurrent)

end Stage

/-! ## Programs are paths -/

/-- What a program does is a path, and everything that it has begun has ended. -/
theorem Plays.path {isPresenting : Bool} {session last : Session} {moments : List Moment}
    (h : Plays isPresenting session moments last) {stage : Stage}
    (hsession : stage.session = session)
    (horderly : stage.Orderly) :
    ∃ beats ended, stage.Path beats ended ∧ ended.session = last ∧
      ended.ongoing = stage.ongoing := by
  induction h generalizing stage with
  | done => exact ⟨[], stage, .done stage, hsession, rfl⟩
  | @step isPresenting session next last call moments hcall hstep _ ih =>
      subst hsession
      -- exchanges are beats of their own
      have hfirst : ∃ beat after, stage.Advance beat after ∧ after.session = next ∧
          after.ongoing = stage.ongoing := by
        cases hstep with
        | installed presenter => exact ⟨_, _, .install presenter, rfl, rfl⟩
        | uninstalled => exact ⟨_, _, .uninstall, rfl, rfl⟩
        | restored => cases hcall
        | screen hadded => exact ⟨_, _, .call rfl rfl (.screen hadded), rfl, rfl⟩
        | widget hadded => exact ⟨_, _, .call rfl rfl (.widget hadded), rfl, rfl⟩
        | reset => exact ⟨_, _, .call rfl rfl .reset, rfl, rfl⟩
        | appended hadded => exact ⟨_, _, .call rfl rfl (.appended hadded), rfl, rfl⟩
        | attached hadded => exact ⟨_, _, .call rfl rfl (.attached hadded), rfl, rfl⟩
        | edited id change => exact ⟨_, _, .call rfl rfl (.edited id change), rfl, rfl⟩
        | conventionSet convention =>
            exact ⟨_, _, .call rfl rfl (.conventionSet convention), rfl, rfl⟩
      obtain ⟨beat, after, hbeat, hafter, hongoing⟩ := hfirst
      obtain ⟨beats, ended, hpath, hended, hongoing'⟩ := ih hafter (hbeat.orderly horderly)
      exact ⟨_, ended, .step hbeat hpath, hended, hongoing'.trans hongoing⟩
  | @block isPresenting session inside ended last call block moments more ending hopens _ _ ihbody
      ihrest =>
      subst hsession
      have hopened := Stage.Advance.opened hopens
      obtain ⟨beats, stage', hbody, rfl, hongoing⟩ := ihbody rfl (hopened.orderly horderly)
      have hclosed := Stage.Advance.closed ending hongoing
      have horderly' := hclosed.orderly (hbody.orderly (hopened.orderly horderly))
      obtain ⟨later, last', hrest, hlast, hongoing'⟩ := ihrest rfl horderly'
      exact ⟨_, last', .step hopened (hbody.append (.step hclosed hrest)), hlast, hongoing'⟩
  | @presentation isPresenting session ended last presenter moments more ending hpresenter _ _
      ihbody ihrest =>
      subst hsession
      obtain ⟨installation, hinstalled, rfl⟩ :
          ∃ installation, stage.installed = some installation ∧
            installation.presenter = presenter := by
        rw [horderly.presenter_eq] at hpresenter
        simpa using hpresenter
      have hpresent := Stage.Advance.present hinstalled
      obtain ⟨beats, stage', hbody, rfl, hongoing⟩ := ihbody rfl (hpresent.orderly horderly)
      have hconclude := Stage.Advance.conclude ending hongoing
      have horderly' := hconclude.orderly (hbody.orderly (hpresent.orderly horderly))
      obtain ⟨later, last', hrest, hlast, hongoing'⟩ := ihrest rfl horderly'
      exact ⟨_, last', .step hpresent (hbody.append (.step hconclude hrest)), hlast, hongoing'⟩

/-- An act that works by calls and presentations leads along a path. -/
theorem Act.Traces.path {α : Type} {isPresenting : Bool} {act : Act α} (h : act.Traces isPresenting)
    {stage : Stage} (horderly : stage.Orderly) {world : World}
    (hworld : world.session = stage.session) :
    ∃ beats ended, stage.Path beats ended ∧ ended.session = (act.exec world).2.session ∧
      ended.ongoing = stage.ongoing := by
  obtain ⟨moments, hplays⟩ := h world
  exact hplays.path hworld.symm horderly

/-- Wherever a program is, a path leads there. -/
theorem Staged.path {config : Config} {isPresenting : Bool} {moments : List Moment}
    {session : Session} (h : Staged config isPresenting moments session) :
    ∃ beats stage, (Stage.start config).Path beats stage ∧ stage.session = session := by
  induction h with
  | start => exact ⟨[], _, .done _, rfl⟩
  | run _ hplays ih =>
      obtain ⟨beats, stage, hpath, hsession⟩ := ih
      obtain ⟨more, last, hmore, hlast, -⟩ := hplays.path hsession (hpath.orderly (.start config))
      exact ⟨_, last, hpath.append hmore, hlast⟩
  | enter _ hopens ih =>
      obtain ⟨beats, stage, hpath, rfl⟩ := ih
      exact ⟨_, _, hpath.append (.single (.opened hopens)), rfl⟩
  | present _ hpresenter ih =>
      obtain ⟨beats, stage, hpath, rfl⟩ := ih
      rw [(hpath.orderly (.start config)).presenter_eq] at hpresenter
      obtain ⟨installation, hinstalled, -⟩ := Option.map_eq_some_iff.mp hpresenter
      exact ⟨_, _, hpath.append (.single (.present hinstalled)), rfl⟩

end Storyboard
