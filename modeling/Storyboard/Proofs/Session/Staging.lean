import Storyboard.Proofs.Session.Runs

/-!
# Stagings

While a presenter presents a storyboard in the ambient form it is taken out of the session, may use
the session itself, and is put back afterwards.  A run knows these as calls like any others; a
staging knows which of them belong together.  `Plays` relates the session before and after a program
whose blocks and presentations have all come to an end, with everything that happened in between as
`Moment`s, and a session is `Staged` if a program can be there, possibly inside blocks and
presentations that are still going on.

Forgetting which calls belong together makes a run of a staging (`Plays.runs`).
-/

namespace Storyboard

/-- Whether the call puts a presenter back. -/
def Call.isRestoration : Call → Bool
  | .restored => true
  | _ => false

/-- Something that happens while a program goes on. -/
inductive Moment where
  /-- A call is made, during a presentation or not. -/
  | call (isPresenting : Bool) (call : Call)
  /-- The presenter is taken out and begins to present. -/
  | presenting
  | presented (ending : Ending)
  deriving DecidableEq

/-- The session when a presentation has come to an end: the presenter is put back unless there was a
panic. -/
def Session.conclude (presenter : Presenter) (before : Tree Callback) (ending : Ending)
    (ended : Session) : Session :=
  match ending with
  | .panicked => ended
  | .returned | .failed => ended.restore presenter before

/-- A program whose blocks and presentations have all come to an end leads from one session to
another.  The flag says whether it goes on during a presentation. -/
inductive Plays : Bool → Session → List Moment → Session → Prop
  | done (isPresenting : Bool) (session : Session) : Plays isPresenting session [] session
  | step {isPresenting : Bool} {session next last : Session} {call : Call} {moments : List Moment}
      (hcall : call.isRestoration = false) (hstep : Steps session call next)
      (hrest : Plays isPresenting next moments last) :
      Plays isPresenting session (.call isPresenting call :: moments) last
  | block {isPresenting : Bool} {session inside ended last : Session} {call : Call}
      {block : OpenBlock} {moments more : List Moment} {ending : Ending}
      (hopens : Opens session call block inside) (hbody : Plays isPresenting inside moments ended)
      (hrest : Plays isPresenting (block.close ending ended) more last) :
      Plays isPresenting session
        (.call isPresenting call :: moments ++ .call isPresenting (.closed ending) :: more) last
  | presentation {isPresenting : Bool} {session ended last : Session} {presenter : Presenter}
      {moments more : List Moment} {ending : Ending}
      (hpresenter : session.presenter = some presenter)
      (hbody : Plays true session.uninstall moments ended)
      (hrest : Plays isPresenting (ended.conclude presenter session.tree ending) more last) :
      Plays isPresenting session (.presenting :: moments ++ .presented ending :: more) last

/-- The sessions in which a program can be, with what has happened so far. -/
inductive Staged (config : Config) : Bool → List Moment → Session → Prop
  | start : Staged config false [] (.ofConfig config)
  | run {isPresenting : Bool} {moments more : List Moment} {session next : Session}
      (h : Staged config isPresenting moments session)
      (hplays : Plays isPresenting session more next) :
      Staged config isPresenting (moments ++ more) next
  | enter {isPresenting : Bool} {moments : List Moment} {session inside : Session} {call : Call}
      {block : OpenBlock} (h : Staged config isPresenting moments session)
      (hopens : Opens session call block inside) :
      Staged config isPresenting (moments ++ [.call isPresenting call]) inside
  | present {isPresenting : Bool} {moments : List Moment} {session : Session}
      {presenter : Presenter} (h : Staged config isPresenting moments session)
      (hpresenter : session.presenter = some presenter) :
      Staged config true (moments ++ [.presenting]) session.uninstall

namespace Plays

variable {isPresenting : Bool} {session middle last : Session}

theorem append {moments more : List Moment} (h : Plays isPresenting session moments middle)
    (hmore : Plays isPresenting middle more last) :
    Plays isPresenting session (moments ++ more) last := by
  induction h with
  | done => exact hmore
  | step hcall hstep _ ih => exact .step hcall hstep (ih hmore)
  | block hopens hbody _ _ ih =>
      rw [List.append_assoc, List.cons_append]
      exact .block hopens hbody (ih hmore)
  | presentation hpresenter hbody _ _ ih =>
      rw [List.append_assoc, List.cons_append]
      exact .presentation hpresenter hbody (ih hmore)

theorem single {call : Call} (hcall : call.isRestoration = false) (h : Steps session call last) :
    Plays isPresenting session [.call isPresenting call] last :=
  .step hcall h (.done _ _)

end Plays

/-- The end of a presentation is a call if the presenter is put back, and nothing otherwise. -/
theorem Session.runs_conclude (presenter : Presenter) (before : Tree Callback) (ending : Ending)
    (ended : Session) : ∃ calls, Runs ended calls (ended.conclude presenter before ending) := by
  cases ending with
  | panicked => exact ⟨[], .done _⟩
  | returned => exact ⟨[.restored], .single (.restored presenter before)⟩
  | failed => exact ⟨[.restored], .single (.restored presenter before)⟩

/-- What a program does is a run. -/
theorem Plays.runs {isPresenting : Bool} {session last : Session} {moments : List Moment}
    (h : Plays isPresenting session moments last) : ∃ calls, Runs session calls last := by
  induction h with
  | done isPresenting session => exact ⟨[], .done session⟩
  | step _ hstep _ ih =>
      obtain ⟨calls, hrest⟩ := ih
      exact ⟨_, .step hstep hrest⟩
  | block hopens _ _ ihbody ihrest =>
      obtain ⟨calls, hbody⟩ := ihbody
      obtain ⟨more, hrest⟩ := ihrest
      exact ⟨_, .block hopens hbody hrest⟩
  | @presentation isPresenting session ended last presenter moments more ending _ _ _ ihbody
      ihrest =>
      obtain ⟨calls, hbody⟩ := ihbody
      obtain ⟨more, hrest⟩ := ihrest
      obtain ⟨between, hconclude⟩ := ended.runs_conclude presenter session.tree ending
      -- to take the presenter out is the first of the calls
      exact ⟨_, .step .uninstalled (hbody.append (hconclude.append hrest))⟩

theorem Staged.reached {config : Config} {isPresenting : Bool} {moments : List Moment}
    {session : Session} (h : Staged config isPresenting moments session) :
    ∃ calls, Reached config calls session := by
  induction h with
  | start => exact ⟨[], .start⟩
  | run _ hplays ih =>
      obtain ⟨calls, hreached⟩ := ih
      obtain ⟨more, hrun⟩ := hplays.runs
      exact ⟨_, hreached.run hrun⟩
  | enter _ hopens ih =>
      obtain ⟨calls, hreached⟩ := ih
      exact ⟨_, hreached.enter hopens⟩
  | present _ _ ih =>
      obtain ⟨calls, hreached⟩ := ih
      exact ⟨_, hreached.run (.single .uninstalled)⟩

end Storyboard
