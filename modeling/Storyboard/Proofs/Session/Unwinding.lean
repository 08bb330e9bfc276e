import Storyboard.Proofs.Session.Programs
import Storyboard.Proofs.Session.History

/-!
# Panics inside of blocks

A panic passes through all open blocks until it is caught, and whatever was still to be done in them
is skipped.  Each block leaves its scope on the way, as it does when it returns, and none is undone.
So it makes no difference to the world whether there is a panic at some point, or whether all blocks
that are open there return at once (`Enters.panicked_eq_returned`).

A point inside of blocks is given by what was done on the way to it.  A `Frame` is the part of a
block up to the next inner block, and what would come after it; the forms of the keywords may differ
from frame to frame.
-/

namespace Storyboard

open Storyboard.Tree

/-! ## Frames -/

/-- A keyword that takes a block. -/
inductive BlockKeyword where
  | screen (args : Args Callback)
  | container (kind : WidgetKind) (args : Args Callback)

namespace BlockKeyword

/-- The act of a keyword with its block. -/
def act (mode : Mode) (keyword : BlockKeyword) (body : Act Unit) : Act NodeId :=
  match keyword with
  | .screen args => mode.engine.screenBlock args body
  | .container kind args => mode.engine.containerBlock kind args body

def opening : BlockKeyword → Act OpenBlock
  | .screen args => openScreen args
  | .container kind args => openContainer kind args

theorem exec_act (mode : Mode) (keyword : BlockKeyword) (body : Act Unit) (world : World) :
    (keyword.act mode body).exec world = (withBlock keyword.opening body).exec world := by
  cases keyword with
  | screen args => exact Act.exec_screenBlock world mode args body
  | container kind args => exact Act.exec_containerBlock world mode kind args body

theorem opens_opening {keyword : BlockKeyword} {world inside : World} {block : OpenBlock}
    (h : keyword.opening.exec world = (.ok block, inside)) :
    ∃ call, Opens world.session call block inside.session := by
  cases keyword with
  | screen args =>
      have hopens := opens_openScreen args world
      change (openScreen args).exec world = (.ok block, inside) at h
      rw [h] at hopens
      exact ⟨_, hopens⟩
  | container kind args =>
      have hopens := opens_openContainer kind args world
      change (openContainer kind args).exec world = (.ok block, inside) at h
      rw [h] at hopens
      exact ⟨_, hopens⟩

end BlockKeyword

/-- Part of a program around an inner block. -/
structure Frame where
  /-- The form of the inner keyword. -/
  mode : Mode
  /-- What is done first, and which keyword comes then. -/
  before : Program BlockKeyword
  /-- What is done with the node of the keyword, or with its failure. -/
  after : Except Error NodeId → Act Unit

namespace Frame

/-- The frame with an inner block.  A panic is not held up. -/
def around (frame : Frame) (inner : Act Unit) : Act Unit := do
  let keyword ← frame.before.act
  match ← Act.attempt (keyword.act frame.mode inner) with
  | .ok id => frame.after (.ok id)
  | .error (.failed error) => frame.after (.error error)
  | .error halt => throw halt

/-- The frame with an inner block after which it returns at once. -/
def returning (frame : Frame) (inner : Act Unit) : Act Unit := do
  let keyword ← frame.before.act
  let _ ← keyword.act frame.mode inner

end Frame

/-- Frames inside of each other, the outermost first, around what is done in the innermost block. -/
def nested (frames : List Frame) (inner : Act Unit) : Act Unit :=
  frames.foldr Frame.around inner

/-- The same, but when an inner block has been carried out every frame returns at once. -/
def nestedReturning (frames : List Frame) (inner : Act Unit) : Act Unit :=
  frames.foldr Frame.returning inner

/-- The way into the innermost of some frames: the first part of each is carried out, and its block
is opened.  The blocks are those that are open then, the innermost first. -/
inductive Enters : List Frame → World → List OpenBlock → World → Prop
  | here (world : World) : Enters [] world [] world
  | frame {frame : Frame} {frames : List Frame} {world ready inside innermost : World}
      {keyword : BlockKeyword} {block : OpenBlock} {blocks : List OpenBlock}
      (hbefore : frame.before.act.exec world = (.ok keyword, ready))
      (hopening : keyword.opening.exec ready = (.ok block, inside))
      (hrest : Enters frames inside blocks innermost) :
      Enters (frame :: frames) world (blocks ++ [block]) innermost

/-! ## Leaving all blocks -/

/-- The session when blocks have been left, the innermost first. -/
def leaveAll (blocks : List OpenBlock) (session : Session) : Session :=
  blocks.foldl (fun left block => block.close .returned left) session

theorem leaveAll_concat (blocks : List OpenBlock) (block : OpenBlock) (session : Session) :
    leaveAll (blocks ++ [block]) session = block.close .returned (leaveAll blocks session) := by
  rw [leaveAll, List.foldl_append]
  rfl

/-- Leaving blocks changes the context and nothing else. -/
theorem leaveAll_eq (blocks : List OpenBlock) (session : Session) :
    ∃ context : Context, context.screen = session.tree.context.screen ∧
      leaveAll blocks session
        = { session with tree := { session.tree with context := context } } := by
  induction blocks generalizing session with
  | nil => exact ⟨session.tree.context, rfl, rfl⟩
  | cons block blocks ih =>
      obtain ⟨context, hscreen, hleft⟩ := ih (block.close .returned session)
      exact ⟨context, hscreen.trans (screen_leave session.tree.context block.scope), hleft⟩

/-- What becomes of a block keyword if it is opened and its block is carried out. -/
theorem BlockKeyword.exec_act_of_opening (mode : Mode) (body : Act Unit) {keyword : BlockKeyword}
    {world inside : World} {block : OpenBlock}
    (hopening : keyword.opening.exec world = (.ok block, inside)) :
    (keyword.act mode body).exec world =
      ((body.exec inside).1.map fun _ => block.node,
        { (body.exec inside).2 with
          session := block.close (.of (body.exec inside).1) (body.exec inside).2.session }) := by
  rw [exec_act, Act.exec_withBlock, hopening]

namespace Frame

variable {frame : Frame} {inner : Act Unit} {world ready inside ended : World}
  {keyword : BlockKeyword} {block : OpenBlock}

/-- A panic inside of a frame leaves its block and goes on. -/
theorem exec_around (hbefore : frame.before.act.exec world = (.ok keyword, ready))
    (hopening : keyword.opening.exec ready = (.ok block, inside)) {message : String}
    (hinner : inner.exec inside = (.error (.panicked message), ended)) :
    (frame.around inner).exec world
      = (.error (.panicked message),
          { ended with session := block.close .panicked ended.session }) := by
  have hkeyword := BlockKeyword.exec_act_of_opening frame.mode inner hopening
  rw [hinner] at hkeyword
  rw [around, Act.exec_bind_ok hbefore, Act.exec_bind_ok (Act.exec_attempt _ _), hkeyword]
  rfl

theorem exec_returning (hbefore : frame.before.act.exec world = (.ok keyword, ready))
    (hopening : keyword.opening.exec ready = (.ok block, inside))
    (hinner : inner.exec inside = (.ok (), ended)) :
    (frame.returning inner).exec world
      = (.ok (), { ended with session := block.close .returned ended.session }) := by
  have hkeyword := BlockKeyword.exec_act_of_opening frame.mode inner hopening
  rw [hinner] at hkeyword
  rw [returning, Act.exec_bind_ok hbefore, Act.exec_bind_ok hkeyword]
  rfl

end Frame

namespace Enters

variable {frames : List Frame} {world innermost point : World} {blocks : List OpenBlock}

/-- A panic in the innermost block leaves all blocks. -/
theorem exec_nested (h : Enters frames world blocks innermost) {inner : Act Unit}
    {message : String} (hinner : inner.exec innermost = (.error (.panicked message), point)) :
    (nested frames inner).exec world
      = (.error (.panicked message), { point with session := leaveAll blocks point.session }) := by
  induction h with
  | here => exact hinner
  | frame hbefore hopening _ ih =>
      rw [leaveAll_concat]
      exact Frame.exec_around hbefore hopening (ih hinner)

theorem exec_nestedReturning (h : Enters frames world blocks innermost) {inner : Act Unit}
    (hinner : inner.exec innermost = (.ok (), point)) :
    (nestedReturning frames inner).exec world
      = (.ok (), { point with session := leaveAll blocks point.session }) := by
  induction h with
  | here => exact hinner
  | frame hbefore hopening _ ih =>
      rw [leaveAll_concat]
      exact Frame.exec_returning hbefore hopening (ih hinner)

/-- From before the outermost frame until all blocks have been left is a run. -/
theorem runs (h : Enters frames world blocks innermost) {calls : List Call} {session : Session}
    (hrun : Runs innermost.session calls session) :
    ∃ all, Runs world.session all (leaveAll blocks session) := by
  induction h with
  | here => exact ⟨calls, hrun⟩
  | @frame frame frames world ready inside innermost keyword block blocks hbefore hopening _ ih =>
      have hfirst : Runs world.session (frame.before.calls world) ready.session := by
        have hruns := frame.before.runs world
        rwa [hbefore] at hruns
      obtain ⟨call, hopens⟩ := BlockKeyword.opens_opening hopening
      obtain ⟨inner, hbody⟩ := ih hrun
      rw [leaveAll_concat]
      exact ⟨_, hfirst.append (.block hopens hbody (.done _))⟩

end Enters

/-! ## Panics and returns -/

/-- A run opens no container that is still open in the end. -/
theorem Tree.Since.containers_subset {κ : Type} {before after : Tree κ}
    {attachments : List (NodeId × NodeId)} (h : Since before attachments after) :
    after.context.containers ⊆ before.context.containers := by
  rcases h with ⟨-, hgrown⟩ | hcleared
  · rcases hgrown.context_eq with hsame | ⟨screen, -, hnew⟩
    · rw [hsame]
      exact List.Subset.refl _
    · rw [hnew]
      exact List.nil_subset _
  · rw [hcleared.containers_eq]
    exact List.nil_subset _

/-- Compared with the point that was reached inside of blocks, they have been left, and that is all;
compared with the world before, no more containers are open. -/
structure Left (before point ended : World) : Prop where
  journal_eq : ended.journal = point.journal
  /-- No node has been removed or changed, and neither have presenter and configuration. -/
  session_eq : ended.session =
    { point.session with
      tree := { point.session.tree with context := ended.session.tree.context } }
  screen_eq : ended.session.tree.context.screen = point.session.tree.context.screen
  containers_subset :
    ended.session.tree.context.containers ⊆ before.session.tree.context.containers

/-- A panic that is raised inside of blocks and caught outside of them leaves the same world as if
all of the blocks had returned where it was raised. -/
theorem Enters.panicked_eq_returned {config : Config} {history : List Call} {frames : List Frame}
    {world innermost point : World} {blocks : List OpenBlock} {last : Program Unit}
    (hreached : Reached config history world.session)
    (henters : Enters frames world blocks innermost)
    (hlast : last.act.exec innermost = (.ok (), point)) (message : String) :
    ∃ ended, Left world point ended ∧
      (Act.attempt (nested frames do last.act; throw (.panicked message))).exec world
        = (.ok (.error (.panicked message)), ended) ∧
      (nestedReturning frames last.act).exec world = (.ok (), ended) := by
  have hpanic : (do last.act; throw (.panicked message) : Act Unit).exec innermost
      = (.error (.panicked message), point) := by
    rw [Act.exec_bind_ok hlast]
    rfl
  have hrun : Runs innermost.session (last.calls innermost) point.session := by
    have hruns := last.runs innermost
    rwa [hlast] at hruns
  obtain ⟨calls, hall⟩ := henters.runs hrun
  obtain ⟨context, hscreen, hleft⟩ := leaveAll_eq blocks point.session
  have hsubset := (hall.since hreached.oriented).2.containers_subset
  refine ⟨{ point with session := leaveAll blocks point.session },
    ⟨rfl, ?_, ?_, hsubset⟩, ?_, henters.exec_nestedReturning hlast⟩
  · rw [hleft]
  · rw [hleft]
    exact hscreen
  · rw [Act.exec_attempt, henters.exec_nested hpanic]

/-- A form is opened first; its failure would be ignored. -/
def formFrame : Frame where
  mode := .ambient
  before := .quiet (pure (.container .table (.text "Form"))) fun _ => rfl
  after _ := pure ()

/-- A label is declared before a screen is opened, in the other form. -/
def helpFrame : Frame where
  mode := .exclusive
  before := (Program.keyword .ambient (.widget .label (.text "Name"))).bind fun _ =>
    .quiet (pure (.screen (.text "Help"))) fun _ => rfl
  after _ := Act.fail .unknownNode

/-- A label is declared. -/
def labelProgram : Program Unit :=
  (Program.keyword .exclusive (.widget .label (.text "Text"))).bind fun _ =>
    .quiet (pure ()) fun _ => rfl

/-- Everything is still there after a panic on the screen inside of the form. -/
theorem panicked_eq_returned_form :
    ∃ point ended, point.session.tree.walk = [⟨0⟩, ⟨1⟩, ⟨2⟩, ⟨3⟩, ⟨4⟩] ∧
      Left { session := homeSession, journal := {} } point ended ∧
      (Act.attempt (nested [formFrame, helpFrame] do
          labelProgram.act; throw (.panicked "boom"))).exec
          { session := homeSession, journal := {} }
        = (.ok (.error (.panicked "boom")), ended) ∧
      (nestedReturning [formFrame, helpFrame] labelProgram.act).exec
          { session := homeSession, journal := {} } = (.ok (), ended) := by
  have henters : Enters [formFrame, helpFrame] { session := homeSession, journal := {} } _ _ :=
    .frame rfl rfl (.frame rfl rfl (.here _))
  obtain ⟨ended, hended⟩ :=
    Enters.panicked_eq_returned reached_home henters
      (show labelProgram.act.exec _ = (.ok (), _) from rfl) "boom"
  exact ⟨_, ended, by decide, hended⟩

end Storyboard
