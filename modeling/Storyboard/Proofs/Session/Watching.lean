import Storyboard.Proofs.Session.Acts

/-!
# Watched scripts

An observer looks at the world after every step of a script, however deep in blocks the step stands
and however it ends, and notes something.  The notes go among the events, so that two watched runs
end in the same world only if their observer has noted the same at the same steps.  An observer may
note whatever tells two worlds apart, so this is as if all worlds on the way were compared.

Watching does not change how a script is run: under an observer who notes nothing it is run as ever
(`Script.watch?_silent`).
-/

namespace Storyboard

/-- What somebody notes after a step, from its place, how it ended, and the world then. -/
abbrev Observer := Place → Except Halt Unit → World → List String

/-- Writes down, among the events, what an observer notes. -/
def note (look : Observer) (place : Place) (outcome : Except Halt Unit) : Act Unit :=
  modify fun world =>
    { world with journal :=
        { world.journal with events := look place outcome world ++ world.journal.events } }

open Act in
/-- Carries out a step and has an observer note what there is to see then. -/
def watched (look : Observer) (place : Place) (step : Act Unit) : Act Unit := do
  let outcome ← attempt step
  note look place outcome
  match outcome with
  | .ok () => pure ()
  | .error halt => throw halt

/-- Runs a step as `runStep` does, watched, and so are the steps inside it. -/
def watchStep (look : Observer) : Nat → Runner
  | 0, _, _, _ => throw .exhausted
  | depth + 1, mode, place, step =>
      watched look place (runStepWith (watchStep look depth) mode place step)

open Act in
/-- Runs a step at the top of a script as `runTopStep` does, in a given way. -/
def runTopStepWith (run : Runner) (mode : Mode) (index : Nat) (step : Step) : Act Unit := do
  match ← attempt (run mode [.step index] step) with
  | .ok () | .error (.failed _) => pure ()
  | .error (.panicked message) => record [.step index] step.name (.panicked message)
  | .error .exhausted => throw .exhausted

/-- Runs the steps at the top of a script as `runTop` does, in a given way. -/
def runTopWith (run : Runner) (mode : Mode) : Nat → List Step → Act Unit
  | _, [] => pure ()
  | index, step :: rest => do
      runTopStepWith run mode index step
      runTopWith run mode (index + 1) rest

/-- Runs a script under the eyes of an observer. -/
def Script.watch? (look : Observer) (depth : Nat) (script : Script) : Option World :=
  match ((runTopWith (watchStep look depth) script.mode 0 script.steps).run).run script.start with
  | (.ok (), world) => some world
  | (.error _, _) => none

theorem Script.watch?_eq_some {look : Observer} {depth : Nat} {script : Script} {world : World}
    (h : (runTopWith (watchStep look depth) script.mode 0 script.steps).exec script.start
      = (.ok (), world)) : script.watch? look depth = some world := by
  unfold watch?
  change
    (match (runTopWith (watchStep look depth) script.mode 0 script.steps).exec script.start with
      | (.ok (), world) => some world
      | (.error _, _) => none) = some world
  rw [h]

/-- Who notes nothing. -/
def Observer.silent : Observer := fun _ _ _ => []

theorem watched_silent (place : Place) (step : Act Unit) : watched .silent place step = step := by
  funext world
  change (watched .silent place step).exec world = step.exec world
  unfold watched
  rw [Act.exec_bind_ok (Act.exec_attempt world step)]
  obtain ⟨outcome, ended⟩ := step.exec world
  cases outcome with
  | ok value => rfl
  | error halt => rfl

theorem watchStep_silent (depth : Nat) : watchStep .silent depth = runStep depth := by
  induction depth with
  | zero => rfl
  | succ depth ih =>
      funext mode place step
      rw [watchStep, watched_silent, ih, runStep]

theorem runTopWith_runStep (depth : Nat) (mode : Mode) (index : Nat) (steps : List Step) :
    runTopWith (runStep depth) mode index steps = runTop depth mode index steps := by
  induction steps generalizing index with
  | nil => rfl
  | cons step rest ih =>
      rw [runTopWith, runTop, ih]
      rfl

/-- An ordinary run is one that is watched by somebody who notes nothing. -/
theorem Script.watch?_silent (depth : Nat) (script : Script) :
    script.watch? .silent depth = script.run? depth := by
  rw [watch?, watchStep_silent, runTopWith_runStep]
  rfl

end Storyboard
