import Storyboard.Proofs.Session.Performances

/-!
# Presenters take turns

A presenter is never asked to present while it presents.  It is taken out of the session for its
performance, so that another presentation in the meantime is that of a presenter that was installed
in the meantime, or none at all.  `Stage.TakesTurns` says what this comes to on one stage, and
`Stage.Path.takesTurns` that it holds on every stage that can be come to, however presentations,
installations, blocks and other calls are nested.
-/

namespace Storyboard

/-- What a presenter is handed to begin with a screen. -/
def Session.presentation (session : Session) (entry : Option NodeId) : Presentation where
  tree := session.tree
  entry := entry
  title := session.config.title

/-- How a presenter works: what it does with a presentation. -/
abbrev Performing := Presenter → Presentation → Act Unit

namespace Stage

/-- What becomes of it if a presentation is asked for. -/
inductive Presents (stage : Stage) (selector : Selector) (world : World) : Prop
  /-- There is no presenter: nothing is done. -/
  | unavailable (hinstalled : stage.installed = none)
      (hrefused : ∀ run : Performing, (Ambient.present run selector).exec world
        = (.error (.failed .presenterUnavailable), world))
  /-- There is no such screen: nothing is done. -/
  | unresolved (error : Error) (hentry : world.session.tree.select selector = .error error)
      (hrefused : ∀ run : Performing, (Ambient.present run selector).exec world
        = (.error (.failed error), world))
  /-- The presenter that is installed presents once, with none installed, and what has become of it
  is what becomes of the presentation. -/
  | presented (installation : Installation) (entry : Option NodeId)
      (hinstalled : stage.installed = some installation)
      (hentry : world.session.tree.select selector = .ok entry)
      (hpresented : ∀ run : Performing, (Ambient.present run selector).exec world =
        let (outcome, ended) :=
          (run installation.presenter (world.session.presentation entry)).exec
            { world with session := world.session.uninstall }
        (outcome, { ended with
          session := ended.session.conclude installation.presenter world.session.tree
            (.of outcome) }))

/-- No presenter is asked to present while it presents. -/
structure TakesTurns (stage : Stage) : Prop where
  /-- No presenter presents twice at a time, and the one that is installed does not present. -/
  nodup : ((stage.installed.toList ++ stage.presenting).map (·.number)).Nodup
  presents : ∀ selector world, world.session = stage.session → stage.Presents selector world
  /-- Whatever an act does, with presentations in any number and depth, is a path from here, and all
  that it has begun has ended. -/
  path : ∀ (isPresenting : Bool) (act : Act Unit), act.Traces isPresenting →
    ∀ world, world.session = stage.session →
      ∃ later last, stage.Path later last ∧ last.session = (act.exec world).2.session ∧
        last.ongoing = stage.ongoing
  /-- Nothing can be presented during a performance since whose beginning no presenter was
  installed. -/
  unavailable : ∀ (outer : Stage) (installation : Installation) (later : List Beat),
    (outer.begin installation).Path later stage →
    { installation := installation, before := outer.session.tree, since := outer.count }
      ∈ stage.performances →
    installations later = [] →
    ∀ (run : Performing) selector world, world.session = stage.session →
      (Ambient.present run selector).exec world
        = (.error (.failed .presenterUnavailable), world)
  /-- After a presentation in which no presenter was lost and that does not panic, the presenter is
  the one that was installed last, or else the one that presented. -/
  returns : ∀ (run : Performing) selector world installation entry later inner,
    world.session = stage.session → stage.installed = some installation →
    world.session.tree.select selector = .ok entry →
    (stage.begin installation).Path later inner →
    inner.ongoing = (stage.begin installation).ongoing →
    inner.session = ((run installation.presenter (world.session.presentation entry)).exec
      { world with session := world.session.uninstall }).2.session →
    Ending.of ((Ambient.present run selector).exec world).1 ≠ .panicked →
    (∀ beat ∈ later, beat.isPeaceful = true) →
    ∃ last, inner.Advance (.presented installation
        (.of ((Ambient.present run selector).exec world).1)) last ∧
      last.session = ((Ambient.present run selector).exec world).2.session ∧
      last.ongoing = stage.ongoing ∧
      last.installed = some (lastInstalled installation later)

/-! ## On one stage -/

variable {stage : Stage}

/-- A presentation that gets past the checks. -/
theorem exec_present {selector : Selector} {world : World} {presenter : Presenter}
    {entry : Option NodeId} (hpresenter : world.session.presenter = some presenter)
    (hentry : world.session.tree.select selector = .ok entry) (run : Performing) :
    (Ambient.present run selector).exec world =
      let (outcome, ended) := (run presenter (world.session.presentation entry)).exec
        { world with session := world.session.uninstall }
      (outcome, { ended with
        session := ended.session.conclude presenter world.session.tree (.of outcome) }) := by
  rw [Act.exec_ambientPresent, hpresenter]
  simp only [hentry, Session.presentation]
  -- the two forms of putting the presenter back agree for every way to end
  generalize (run presenter _).exec _ = outcome
  obtain ⟨outcome, ended⟩ := outcome
  dsimp only
  cases Ending.of outcome with
  | panicked => rfl
  | returned => rfl
  | failed => rfl

theorem Orderly.presents (h : stage.Orderly) (selector : Selector) (world : World)
    (hworld : world.session = stage.session) : stage.Presents selector world := by
  have hpresenter := h.presenter_eq
  rw [← hworld] at hpresenter
  cases hinstalled : stage.installed with
  | none =>
      rw [hinstalled] at hpresenter
      exact .unavailable hinstalled fun run => by rw [Act.exec_ambientPresent, hpresenter]; rfl
  | some installation =>
      rw [hinstalled] at hpresenter
      cases hentry : world.session.tree.select selector with
      | error error =>
          refine .unresolved error hentry fun run => ?_
          rw [Act.exec_ambientPresent, hpresenter]
          simp only [Option.map_some, hentry]
      | ok entry =>
          exact .presented installation entry hinstalled hentry
            fun run => exec_present hpresenter hentry run

/-- The presenter that is installed is newer than those that present. -/
theorem Orderly.nodup (h : stage.Orderly) :
    ((stage.installed.toList ++ stage.presenting).map (·.number)).Nodup := by
  have hpresenting : stage.presenting.map (·.number)
      = stage.performances.map fun performance => performance.installation.number :=
    List.map_map
  have hnodup := h.alternating.nodup
  rw [← hpresenting] at hnodup
  cases hinstalled : stage.installed with
  | none => exact hnodup
  | some installation =>
      have halternating := h.alternating
      rw [hinstalled] at halternating
      refine List.nodup_cons.mpr ⟨fun hmem => ?_, hnodup⟩
      have hrunning : installation.number ∈ stage.presenting.map (·.number) := hmem
      rw [hpresenting] at hrunning
      obtain ⟨performance, hperformance, hsame⟩ := List.mem_map.mp hrunning
      exact absurd hsame (Nat.ne_of_lt (halternating.number_lt hperformance))

/-- What is installed during a performance was installed since it began. -/
theorem Orderly.installed_eq_none (h : stage.Orderly) {performance : Performance}
    (hperformance : performance ∈ stage.performances) (hcount : stage.count = performance.since) :
    stage.installed = none := by
  cases hinstalled : stage.installed with
  | none => rfl
  | some installation =>
      have halternating := h.alternating
      rw [hinstalled] at halternating
      have hle : performance.since ≤ installation.number := halternating.since_le hperformance
      have hlt : installation.number < stage.count := h.number_lt installation hinstalled
      omega

/-- Unless there was a panic, the presenter of a performance is there when it has ended, or another
one. -/
theorem installed_conclude_of_current? {performance : Performance} {outer : List Ongoing}
    (hongoing : stage.ongoing = .performance performance :: outer) {ending : Ending}
    (hending : ending ≠ .panicked) :
    (stage.conclude performance ending outer).installed = stage.current? := by
  rw [current?, presenting_head? hongoing]
  cases ending with
  | panicked => exact absurd rfl hending
  | returned => rfl
  | failed => rfl

/-- On every stage that can be come to, presenters take turns. -/
theorem Path.takesTurns {config : Config} {beats : List Beat}
    (h : (Stage.start config).Path beats stage) : stage.TakesTurns := by
  have horderly := h.orderly (.start config)
  refine ⟨horderly.nodup, horderly.presents, ?_, ?_, ?_⟩
  · intro isPresenting act hact world hworld
    exact hact.path horderly hworld
  · intro outer installation later hlater hperformance hnone run selector world hworld
    have hcount : stage.count = outer.count := by
      rw [hlater.count_eq, hnone]
      rfl
    have hinstalled := horderly.installed_eq_none hperformance hcount
    have hpresenter : world.session.presenter = none := by
      rw [hworld, horderly.presenter_eq, hinstalled]
      rfl
    rw [Act.exec_ambientPresent, hpresenter]
  · intro run selector world installation entry later inner hworld hinstalled hentry hlater hongoing
      hinner hpanic hpeaceful
    have hpresenter : world.session.presenter = some installation.presenter := by
      rw [hworld, horderly.presenter_eq, hinstalled]
      rfl
    have hexec := exec_present hpresenter hentry run
    -- the performance begins with its presenter as the one that will be put back
    have hcurrent : (stage.begin installation).current? = some installation := rfl
    have hlast := hlater.current?_eq hpeaceful hcurrent
    refine ⟨_, .conclude _ hongoing, ?_, rfl, ?_⟩
    · rw [hexec]
      change inner.session.conclude _ stage.session.tree _ = _
      rw [hinner, ← hworld]
    · rw [installed_conclude_of_current? hongoing hpanic, hlast]

/-- A stage on which a guide is installed. -/
def guided : Stage := (start {}).install guide

/-- A stage on which a guide presents that was installed while another one presents. -/
def twiceGuided : Stage := ((guided.begin ⟨0, guide⟩).install guide).begin ⟨1, guide⟩

/-- The two guides are told apart, and a guide that installs another one gives way to it. -/
theorem takesTurns_guided :
    twiceGuided.presenting = [⟨1, guide⟩, ⟨0, guide⟩] ∧ twiceGuided.TakesTurns ∧
      ∃ last : Stage, last.installed = some ⟨1, guide⟩ ∧
        last.session
          = ((Ambient.present (fun _ _ => Act.changeSession (·.install guide)) .first).exec
          { session := guided.session, journal := {} }).2.session := by
  have hguided : (start {}).Path [.installed ⟨0, guide⟩] guided := .single (.install guide)
  have htwice : guided.Path
      [.presenting ⟨0, guide⟩, .installed ⟨1, guide⟩, .presenting ⟨1, guide⟩] twiceGuided :=
    .step (.present rfl) (.step (.install guide) (.single (.present rfl)))
  have hreturns := (Path.takesTurns hguided).returns
    (fun _ _ => Act.changeSession (·.install guide)) .first
    { session := guided.session, journal := {} } ⟨0, guide⟩ none [.installed ⟨1, guide⟩]
    ((guided.begin ⟨0, guide⟩).install guide) rfl rfl rfl (.single (.install guide)) rfl rfl
    (by decide) (by simp [Beat.isPeaceful])
  obtain ⟨last, -, hsession, -, hinstalled⟩ := hreturns
  exact ⟨rfl, Path.takesTurns (hguided.append htwice), last, hinstalled, hsession⟩

end Stage

end Storyboard
