import Storyboard.Proofs.Session.Document

/-!
# A reset inside of blocks

A block that is open while the tree is cleared remembers a tree that is no longer there: a number of
screens, a node and a list of containers.  Closing it nevertheless leaves the new tree alone
(`OpenBlock.Stale.close_eq`).  The scope has nothing to put back, since no container is open and the
current screen, if there is one, is newer than the one that the scope remembers; and a failure is
not undone, since the tree is of another generation.

So it does not matter how the blocks end that a reset happened in, nor what is done between one end
and the next: the session is the one to which the calls since the reset lead by themselves
(`Unwinds.runs`, `Reached.reset_prevails`).
-/

namespace Storyboard

open Storyboard.Tree

/-! ## Nests of blocks -/

/-- The sessions in which a program can be that has gone on from `start` and opened some blocks, the
innermost first, with the calls since. -/
inductive Within (start : Session) : List OpenBlock → List Call → Session → Prop
  | start : Within start [] [] start
  | run {blocks : List OpenBlock} {calls more : List Call} {session next : Session}
      (h : Within start blocks calls session) (hrun : Runs session more next) :
      Within start blocks (calls ++ more) next
  | enter {blocks : List OpenBlock} {calls : List Call} {session inside : Session} {call : Call}
      {block : OpenBlock} (h : Within start blocks calls session)
      (hopens : Opens session call block inside) :
      Within start (block :: blocks) (calls ++ [call]) inside

/-- Open blocks are closed from the innermost on, each in any way, with calls in between.  The calls
are written down, the ends of these blocks are not. -/
inductive Unwinds : List OpenBlock → Session → List Call → Session → Prop
  | done (session : Session) : Unwinds [] session [] session
  | run {blocks : List OpenBlock} {session next last : Session} {calls more : List Call}
      (hrun : Runs session calls next) (hrest : Unwinds blocks next more last) :
      Unwinds blocks session (calls ++ more) last
  | close {block : OpenBlock} {blocks : List OpenBlock} {session last : Session}
      {calls : List Call} (ending : Ending)
      (hrest : Unwinds blocks (block.close ending session) calls last) :
      Unwinds (block :: blocks) session calls last

theorem Within.reached {config : Config} {history calls : List Call} {start session : Session}
    {blocks : List OpenBlock} (hstart : Reached config history start)
    (h : Within start blocks calls session) : Reached config (history ++ calls) session := by
  induction h with
  | start =>
      rw [List.append_nil]
      exact hstart
  | run _ hrun ih =>
      rw [← List.append_assoc]
      exact ih.run hrun
  | enter _ hopens ih =>
      rw [← List.append_assoc]
      exact ih.enter hopens

/-! ## Blocks from before a reset -/

/-- Nothing that is in a tree that has been cleared comes from before. -/
theorem Tree.Cleared.trans {κ : Type} {before middle after : Tree κ}
    {attachments : List (NodeId × NodeId)} (hfirst : Cleared before middle)
    (hsecond : Since middle attachments after) (hbefore : before.Sound)
    (hmiddle : middle.Oriented) : Cleared before after := by
  have hlt : before.generation < after.generation :=
    Nat.lt_of_lt_of_le hfirst.generation_lt hsecond.generation_le
  have hsince : Since before ([] ++ attachments) after :=
    Since.trans (Or.inr hfirst) hsecond hbefore hmiddle
  rcases hsince with ⟨hsame, -⟩ | hcleared
  · exact absurd hsame (Nat.ne_of_gt hlt)
  · exact hcleared

/-- The block was opened in some session, and neither numbers nor generations have gone back since.
-/
def OpenBlock.OpenedBefore (block : OpenBlock) (session : Session) : Prop :=
  ∃ before call inside, before.tree.Oriented ∧ Opens before call block inside ∧
    before.tree.next ≤ session.tree.next ∧ before.tree.generation ≤ session.tree.generation

namespace OpenBlock

variable {block : OpenBlock} {session last : Session}

theorem OpenedBefore.mono (h : block.OpenedBefore session)
    (hnext : session.tree.next ≤ last.tree.next)
    (hgeneration : session.tree.generation ≤ last.tree.generation) : block.OpenedBefore last := by
  obtain ⟨before, call, inside, horiented, hopens, hnext', hgeneration'⟩ := h
  exact ⟨before, call, inside, horiented, hopens, hnext'.trans hnext,
    hgeneration'.trans hgeneration⟩

/-- Closing a block from before a reset changes nothing, however it ends. -/
theorem OpenedBefore.close_eq (h : block.OpenedBefore session)
    (hcleared : Cleared session.tree last.tree) (horiented : last.tree.Oriented)
    (ending : Ending) : block.close ending last = last := by
  obtain ⟨before, call, inside, hbefore, hopens, hnext, hgeneration⟩ := h
  obtain ⟨hcheckpoint, -, hentered⟩ := hopens.entered hbefore
  -- the current screen is new, and no container is open
  have hcontext : last.tree.context.leave block.scope = last.tree.context := by
    rw [hentered.leave_of_new_screen hbefore, ← hcleared.containers_eq]
    intro screen hscreen
    exact hnext.trans (hcleared.number_ge screen (horiented.contains_screen hscreen))
  have hleft : last.tree.leave block.scope = last.tree := by
    rw [Tree.leave, hcontext]
  have hundone : last.tree.rollback block.before block.node = last.tree := by
    apply rollback_of_cleared
    rw [hcheckpoint]
    exact Nat.ne_of_lt (Nat.lt_of_le_of_lt hgeneration hcleared.generation_lt)
  cases ending with
  | returned => simp [close, hleft]
  | panicked => simp [close, hleft]
  | failed => simp [close, hleft, hundone]

end OpenBlock

/-- The blocks of a nest have been opened before. -/
theorem Within.openedBefore {start session : Session} {blocks : List OpenBlock}
    {calls : List Call} (h : Within start blocks calls session) (hstart : start.tree.Oriented) :
    session.tree.Oriented ∧ ∀ block ∈ blocks, block.OpenedBefore session := by
  induction h with
  | start => exact ⟨hstart, fun block hblock => by simp at hblock⟩
  | run _ hrun ih =>
      obtain ⟨horiented, hopened⟩ := ih
      obtain ⟨hnext, hsince⟩ := hrun.since horiented
      exact ⟨hnext, fun block hblock =>
        (hopened block hblock).mono hsince.next_le hsince.generation_le⟩
  | @enter blocks calls session inside call block _ hopens ih =>
      obtain ⟨horiented, hopened⟩ := ih
      obtain ⟨-, -, hentered⟩ := hopens.entered horiented
      have hnext : session.tree.next ≤ inside.tree.next := by
        rw [hentered.next_eq]
        exact Nat.le_succ _
      have hgeneration : session.tree.generation ≤ inside.tree.generation :=
        Nat.le_of_eq hentered.generation_eq.symm
      refine ⟨hentered.oriented, fun other hother => ?_⟩
      rcases List.mem_cons.mp hother with rfl | hold
      · exact ⟨session, call, inside, horiented, hopens, hnext, hgeneration⟩
      · exact (hopened other hold).mono hnext hgeneration

/-- Since a reset, the ends of the blocks that it happened in do not count. -/
theorem Unwinds.runs {inside session last : Session} {blocks : List OpenBlock} {calls : List Call}
    (h : Unwinds blocks session calls last)
    (hopened : ∀ block ∈ blocks, block.OpenedBefore inside) (hinside : inside.tree.Sound)
    (hcleared : Cleared inside.tree session.tree) (horiented : session.tree.Oriented) :
    Runs session calls last ∧ Cleared inside.tree last.tree ∧ last.tree.Oriented := by
  induction h with
  | done session => exact ⟨.done session, hcleared, horiented⟩
  | run hrun _ ih =>
      obtain ⟨hnext, hsince⟩ := hrun.since horiented
      obtain ⟨hlater, hlast⟩ := ih hopened (hcleared.trans hsince hinside horiented) hnext
      exact ⟨hrun.append hlater, hlast⟩
  | close ending _ ih =>
      rw [(hopened _ (List.mem_cons_self ..)).close_eq hcleared horiented ending] at ih
      exact ih (fun other hother => hopened other (List.mem_cons_of_mem _ hother)) hcleared
        horiented

/-! ## After a reset -/

/-- The calls since a reset have led to a session, and those before have left nothing in it. -/
structure Renewed (past : List Call) (cleared : Session) (later : List Call) (session : Session) :
    Prop where
  runs : Runs cleared later session
  gone : ∀ id ∈ declarations past, session.tree.contains id = false
  declared : ∀ id, session.tree.contains id = true → id ∈ declarations later
  /-- The current screen is the last one that is left, and no container is open. -/
  context_eq : session.tree.context = { screen := session.tree.screens.getLast? }

/-- A reset inside of blocks prevails over their ends: whether the inner ones have failed, returned
or panicked since, and whatever was done in between, the session is the one to which the calls since
the reset lead, and the end of any of the outer ones changes nothing. -/
theorem Reached.reset_prevails {config : Config} {history calls later : List Call}
    {start inside ended : Session} {inner outer : List OpenBlock}
    (hstart : Reached config history start) (hwithin : Within start (inner ++ outer) calls inside)
    (hunwinds : Unwinds inner inside.reset later ended) :
    Renewed (history ++ calls) inside.reset later ended ∧
      ∀ block ∈ outer, ∀ ending, block.close ending ended = ended := by
  have hreached : Reached config (history ++ calls) inside := hwithin.reached hstart
  obtain ⟨horiented, hopened⟩ := hwithin.openedBefore hstart.oriented
  have hreset : inside.reset.tree.Oriented ∧ Cleared inside.tree inside.reset.tree :=
    ⟨.of_empty (sound_clear _) rfl rfl, .clear _⟩
  obtain ⟨hruns, hcleared, hended⟩ := hunwinds.runs
    (fun block hblock => hopened block (List.mem_append_left _ hblock)) horiented.toSound
    hreset.2 hreset.1
  refine ⟨⟨hruns, fun id hid => ?_, fun id hid => ?_, ?_⟩, fun block hblock ending => ?_⟩
  · -- numbers that were given out before the reset are smaller than all that are left
    have hlt : id.number < inside.tree.next := ((hreached.declares.mem_iff id).mp hid).2
    by_contra hlive
    exact absurd (hcleared.number_ge id (by simpa using hlive)) (Nat.not_le.mpr hlt)
  · exact (hruns.declares.mem_iff id).mpr
      ⟨hcleared.number_ge id hid, hended.number_lt_next id hid⟩
  · rw [← hended.screen_eq, ← hcleared.containers_eq]
  · exact (hopened block (List.mem_append_right _ hblock)).close_eq hcleared hended ending

/-- The tree was cleared inside of the panel, and a screen has been declared since. -/
def startedSession : Session :=
  { panelSession with
    tree := panelSession.reset.tree.withScreen
      (Node.ofArgs .screen .alphanumeric (.text "Start")) }

/-- A label has been declared on the new screen. -/
def restartedSession : Session :=
  { startedSession with
    tree := (startedSession.tree.insertChild ⟨3⟩
      (Node.ofArgs (.widget .label) .alphanumeric (.text "Name"))).2 }

/-- The panel fails before the label is declared, and then the form fails. -/
theorem reset_prevails_panel :
    Unwinds [panelBlock] panelSession.reset [.screen ⟨3⟩, .widget ⟨4⟩] restartedSession ∧
      Renewed [.screen ⟨0⟩, .containerOpened ⟨1⟩, .containerOpened ⟨2⟩] panelSession.reset
        [.screen ⟨3⟩, .widget ⟨4⟩] restartedSession ∧
      tableBlock.close .failed restartedSession = restartedSession := by
  have hwithin : Within homeSession ([panelBlock] ++ [tableBlock])
      [.containerOpened ⟨1⟩, .containerOpened ⟨2⟩] panelSession :=
    .enter (.enter .start opens_table) opens_panel
  have hscreen : panelSession.reset.tree.addScreen (.text "Start")
      = .ok (⟨3⟩, startedSession.tree) := rfl
  -- the label is declared after the panel has failed
  have hlabel : (panelBlock.close .failed startedSession).tree.appendWidget .label (.text "Name")
      startedSession.config.strictRows = .ok (⟨4⟩, restartedSession.tree) := rfl
  have hunwinds : Unwinds [panelBlock] panelSession.reset [.screen ⟨3⟩, .widget ⟨4⟩]
      restartedSession :=
    .run (.single (.screen hscreen)) (.close .failed (.run (.single (.widget hlabel)) (.done _)))
  obtain ⟨hrenewed, hclose⟩ := Reached.reset_prevails reached_home hwithin hunwinds
  exact ⟨hunwinds, hrenewed, hclose tableBlock (List.mem_singleton_self _) .failed⟩

end Storyboard
