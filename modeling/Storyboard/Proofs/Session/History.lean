import Storyboard.Proofs.Session.Failure

/-!
# Histories

The history of a program forgets the tree.  It lists the declarations that still count, the latest
first: the screens that are left, and the containers whose blocks are still being carried out.  Of
each open block it remembers what counted before.  A block that fails takes back what counted since,
unless there was a reset in between, which it cannot take back.

`Runs.matches` proves that the context of the tree, which is a screen and a list of containers and
is saved and put back in pieces, is always the one that the history gives (`Matches`).
-/

namespace Storyboard

open Storyboard.Tree

/-- A declaration that counts. -/
inductive Mark where
  | screen (id : NodeId)
  | container (id : NodeId)
  deriving DecidableEq

namespace Mark

/-- The screen, if it is one. -/
def screen? : Mark → Option NodeId
  | .screen id => some id
  | .container _ => none

def isContainer : Mark → Bool
  | .screen _ => false
  | .container _ => true

end Mark

/-- A block that is being carried out. -/
structure Pending where
  mark : Mark
  /-- What counted before the block. -/
  past : List Mark
  /-- Whether there was a reset since. -/
  isCleared : Bool := false

/-- The declarations that count, the latest first, and the open blocks, the innermost first. -/
structure History where
  marks : List Mark := []
  pending : List Pending := []

namespace History

/-- The screens that are left, the latest first. -/
def screens (history : History) : List NodeId := history.marks.filterMap Mark.screen?

/-- The most recently declared screen that is left. -/
def screen? (history : History) : Option NodeId := history.screens.head?

/-- The containers that stand before the first screen of a list. -/
def openContainers : List Mark → List NodeId
  | .container id :: rest => id :: openContainers rest
  | _ => []

/-- The containers opened after the most recent screen whose blocks are being carried out, the
innermost first. -/
def containers (history : History) : List NodeId := openContainers history.marks

/-- A block is opened for a declaration. -/
def enter (history : History) (mark : Mark) : History :=
  { marks := mark :: history.marks
    pending := { mark := mark, past := history.marks } :: history.pending }

/-- The innermost block is closed: a failure takes back what counted since, and otherwise a
container ceases to count while a screen goes on. -/
def close (history : History) (ending : Ending) : History :=
  match history.pending with
  | [] => history
  | block :: rest =>
      if ending = .failed ∧ block.isCleared = false then
        { marks := block.past, pending := rest }
      else if block.mark.isContainer then
        { marks := history.marks.erase block.mark, pending := rest }
      else { history with pending := rest }

/-- After a reset no screen counts, and no open block can take it back. -/
def reset (history : History) : History where
  marks := history.marks.filter Mark.isContainer
  pending := history.pending.map fun block => { block with isCleared := true }

/-- What a call adds to a history. -/
def after (history : History) : Call → History
  | .screen id => { history with marks := .screen id :: history.marks }
  | .screenOpened id => history.enter (.screen id)
  | .containerOpened id => history.enter (.container id)
  | .closed ending => history.close ending
  | .reset => history.reset
  | _ => history

/-- What some calls add to a history. -/
def extend (history : History) (calls : List Call) : History := calls.foldl after history

/-- The history of a program that has made the given calls. -/
def of (calls : List Call) : History := extend {} calls

/-- The context that a history gives. -/
def context (history : History) : Context :=
  match history.screen? with
  | none => {}
  | some screen => { screen := some screen, containers := history.containers }

/-- Some screens are declared. -/
def declare (history : History) (later : List NodeId) : History :=
  { history with marks := later.map .screen ++ history.marks }

end History

/-- The tree has the screens and the context that the history gives. -/
structure Matches (history : History) (tree : Tree Callback) : Prop where
  screens_eq : tree.screens = history.screens.reverse
  context_eq : tree.context = history.context

namespace History

/-! ## Declaring screens -/

variable {history : History} {later more : List NodeId}

theorem declare_declare :
    (history.declare later).declare more = history.declare (more ++ later) := by
  simp [declare]

@[simp] theorem screens_declare :
    (history.declare later).screens = later ++ history.screens := by
  simp [declare, screens, List.filterMap_append, Function.comp_def, Mark.screen?]

@[simp] theorem screens_enter_container (id : NodeId) :
    (history.enter (.container id)).screens = history.screens := rfl

@[simp] theorem screens_enter_screen (id : NodeId) :
    (history.enter (.screen id)).screens = id :: history.screens := rfl

@[simp] theorem screens_reset : history.reset.screens = [] := by
  simp only [reset, screens, List.filterMap_eq_nil_iff]
  intro mark hmark
  cases mark with
  | screen id => simp [Mark.isContainer] at hmark
  | container id => rfl

theorem reset_declare : (history.declare later).reset = history.reset := by
  simp [declare, reset, Mark.isContainer]

theorem reset_reset : history.reset.reset = history.reset := by
  simp [reset, Function.comp_def]

theorem context_reset : history.reset.context = {} := by
  unfold context screen?
  rw [screens_reset]
  rfl

/-- The latest screen has no open containers. -/
theorem context_of_screen (screen : NodeId) (marks : List Mark) (pending : List Pending) :
    History.context { marks := .screen screen :: marks, pending := pending }
      = { screen := some screen } := rfl

/-- A container is opened on the latest screen, if there is one. -/
theorem context_enter_container {id screen : NodeId} (hscreen : history.screen? = some screen) :
    (history.enter (.container id)).context = (history.context.enterContainer id).2 := by
  have hsame : (history.enter (.container id)).screen? = some screen := hscreen
  unfold context
  rw [hsame, hscreen]
  rfl

end History

/-! ## Blocks and histories -/

/-- What becomes of a history in a run whose blocks have all been closed: screens are declared,
possibly after a reset. -/
def Leads (past : History) (isCleared : Bool) (later : List NodeId) : History :=
  (if isCleared then past.reset else past).declare later

theorem leads_trans (past : History) (first second : Bool) (earlier later : List NodeId) :
    ∃ both, Leads (Leads past first earlier) second later = Leads past (first || second) both ∧
      both ⊆ later ++ earlier := by
  unfold Leads
  -- a second reset drops what the first part declared
  cases second with
  | false =>
      refine ⟨later ++ earlier, ?_, List.Subset.refl _⟩
      rw [Bool.or_false, if_neg Bool.false_ne_true, History.declare_declare]
  | true =>
      refine ⟨later, ?_, List.subset_append_left _ _⟩
      rw [Bool.or_true, if_pos rfl, if_pos rfl, History.reset_declare]
      cases first with
      | false => rfl
      | true => rw [if_pos rfl, History.reset_reset]

/-- The screens that a block leaves, its own included if it is still there. -/
def Mark.left (isCleared : Bool) (later : List NodeId) : Mark → List NodeId
  | .screen id => if isCleared then later else later ++ [id]
  | .container _ => later

theorem close_leads (past : History) (mark : Mark) (isCleared : Bool) (later : List NodeId)
    (ending : Ending) :
    (Leads (past.enter mark) isCleared later).close ending =
      if ending = .failed ∧ isCleared = false then past
      else Leads past isCleared (mark.left isCleared later) := by
  -- the mark of the container is the first of its kind behind the screens declared later
  have herase (id : NodeId) (marks : List Mark) :
      (later.map Mark.screen ++ .container id :: marks).erase (.container id)
        = later.map Mark.screen ++ marks := by
    rw [List.erase_append_right _ (by simp), List.erase_cons_head]
  cases mark with
  | screen id =>
      cases isCleared <;> cases ending <;>
        simp [Leads, History.close, History.declare, History.enter, History.reset, Mark.left,
          Mark.isContainer]
  | container id =>
      cases isCleared <;> cases ending <;>
        simp [Leads, History.close, History.declare, History.enter, History.reset, Mark.left,
          Mark.isContainer, herase, List.filter_cons]

/-- Whether one of the calls is a reset. -/
def clears (calls : List Call) : Bool := calls.contains .reset

theorem clears_eq_false_iff (calls : List Call) : clears calls = false ↔ .reset ∉ calls := by
  simp [clears]

/-- After a reset the tree is another one. -/
theorem Runs.generation_lt {session last : Session} {calls : List Call}
    (h : Runs session calls last) (horiented : session.tree.Oriented)
    (hclears : clears calls = true) : session.tree.generation < last.tree.generation := by
  induction h with
  | done => cases hclears
  | @step session next last call calls hstep hrest ih =>
      obtain ⟨hnext, hfirst⟩ := hstep.since horiented
      -- either this call is the reset, or it comes later
      by_cases hcall : call = .reset
      · subst hcall
        cases hstep
        have hle := (hrest.since hnext).2.generation_le
        exact Nat.lt_of_lt_of_le (Nat.lt_succ_self _) hle
      · have hlater : clears calls = true := by
          simpa [clears, Ne.symm hcall] using hclears
        exact Nat.lt_of_le_of_lt hfirst.generation_le (ih hnext hlater)
  | @block session inside ended last call block calls more ending hopens hbody hrest ihbody
      ihrest =>
      obtain ⟨-, -, hentered⟩ := hopens.entered horiented
      obtain ⟨hended, hinside⟩ := hbody.since hentered.oriented
      obtain ⟨hclosed, hfirst⟩ := hopens.since ending horiented hended hinside
      have hkept := (block.close_frame ending ended).2
      have hsame := hopens.frame.2
      have hcall : call ≠ .reset := by
        rintro rfl
        cases hopens
      have hsplit : clears calls = true ∨ clears more = true := by
        simpa [clears, Ne.symm hcall] using hclears
      -- closing a block never puts an older generation back
      rcases hsplit with hin | hout
      · have hlt := ihbody hentered.oriented hin
        have hle := (hrest.since hclosed).2.generation_le
        omega
      · exact Nat.lt_of_le_of_lt hfirst.generation_le (ihrest hclosed hout)

end Storyboard
