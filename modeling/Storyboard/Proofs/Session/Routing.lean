import Storyboard.Proofs.Session.History

/-!
# The context and the history

The context of a tree is a screen and a list of containers.  Screens empty that list, scopes save it
and put it back or not, and a rollback puts back the whole context.  All the same it always is the
context that the history of the calls gives (`Reached.matches`).

The induction is over runs (`Runs.follows`).  What carries it is that a run whose blocks have all
been closed can only add screens to a history, possibly after a reset (`Leads`); so when a block is
closed, the list of containers is that of its opening, unless a screen was declared inside.
-/

namespace Storyboard

open Storyboard.Tree

/-! ## The tree matches the history -/

/-- What holds of the context holds of the history that matches it. -/
theorem Matches.exists_screen {past : History} {tree : Tree Callback} (h : Matches past tree)
    (horiented : tree.Oriented) {target : NodeId} (htarget : tree.context.target? = some target) :
    ∃ screen, past.screen? = some screen := by
  obtain ⟨screen, hscreen⟩ := horiented.exists_screen htarget
  cases hpast : past.screen? with
  | some screen => exact ⟨screen, rfl⟩
  | none =>
      have hcontext : tree.context = {} := by
        rw [h.context_eq, History.context, hpast]
      rw [hcontext] at hscreen
      cases hscreen

/-- A tree whose screens and context did not change matches what it matched. -/
theorem Matches.congr {past : History} {before after : Tree Callback} (h : Matches past before)
    (hscreens : after.screens = before.screens) (hcontext : after.context = before.context) :
    Matches past after :=
  ⟨hscreens.trans h.screens_eq, hcontext.trans h.context_eq⟩

theorem Matches.withScreen {past : History} {tree : Tree Callback} (h : Matches past tree)
    (node : Node Callback) : Matches (past.after (.screen tree.fresh)) (tree.withScreen node) where
  screens_eq := by
    have hscreens : (past.after (.screen tree.fresh)).screens = tree.fresh :: past.screens := rfl
    rw [hscreens, List.reverse_cons, ← h.screens_eq]
    rfl
  context_eq := rfl

/-! ## Blocks -/

/-- The mark of a block fits the scope that was entered for it. -/
inductive Fits (past : History) (before : Tree Callback) : Mark → Scope → Prop
  | screen : Fits past before (.screen before.fresh) .screen
  | container {screen : NodeId} (hscreen : past.screen? = some screen) :
      Fits past before (.container before.fresh)
        (.container before.context.screen before.context.containers)

theorem Fits.eq_fresh {past : History} {before : Tree Callback} {screen : NodeId} {scope : Scope}
    (h : Fits past before (.screen screen) scope) : screen = before.fresh := by
  cases h
  rfl

section Block

variable {session inside ended : Session} {call : Call} {block : OpenBlock} {past : History}
  {mark : Mark} {isCleared : Bool} {later : List NodeId}

/-- The history that is matched inside of a block. -/
theorem Opens.matches (h : Opens session call block inside) (horiented : session.tree.Oriented)
    (hpast : Matches past session.tree) :
    ∃ mark : Mark, Fits past session.tree mark block.scope ∧
      past.after call = past.enter mark ∧ Matches (past.enter mark) inside.tree := by
  cases h with
  | @screen args id grown h =>
      obtain ⟨rfl, rfl⟩ := addScreen_eq_ok h
      have hinside := hpast.withScreen (Node.ofArgs .screen session.tree.convention args)
      exact ⟨.screen session.tree.fresh, .screen, rfl, hinside.screens_eq, rfl⟩
  | @container kind args id grown h =>
      obtain ⟨parent, htarget, rfl, hgrown⟩ := appendWidget_eq_ok h
      -- a container has been placed, so there is a screen to open it on
      obtain ⟨screen, hscreen⟩ := hpast.exists_screen horiented htarget
      have hshape := Session.shape_bindNode { session with tree := grown } session.tree.fresh
      subst hgrown
      have hcontext : (past.enter (.container session.tree.fresh)).context
          = (session.tree.context.enterContainer session.tree.fresh).2 := by
        rw [History.context_enter_container hscreen, hpast.context_eq]
      refine ⟨.container session.tree.fresh, .container hscreen, rfl,
        hshape.screens_eq.trans hpast.screens_eq, ?_⟩
      rw [hcontext, Session.enterContainer]
      dsimp only
      rw [hshape.context_eq]
      rfl

theorem screens_leads :
    (Leads past isCleared later).screens = later ++ if isCleared then [] else past.screens := by
  cases isCleared <;> simp [Leads]

/-- A block that is closed without being undone leaves the screens that were declared inside. -/
theorem screens_left :
    (Leads past isCleared (mark.left isCleared later)).screens
      = (Leads (past.enter mark) isCleared later).screens := by
  rw [screens_leads, screens_leads]
  cases mark <;> cases isCleared <;> simp [Mark.left]

theorem mem_left {id : NodeId} (hid : id ∈ mark.left isCleared later) :
    id ∈ later ∨ mark = .screen id := by
  cases mark with
  | container container => exact Or.inl hid
  | screen screen =>
      cases isCleared with
      | true => exact Or.inl hid
      | false =>
          rcases List.mem_append.mp hid with hlater | hown
          · exact Or.inl hlater
          · rw [List.mem_singleton.mp hown]
            exact Or.inr rfl

/-- Leaving the scope of a block gives the context of the history without the block. -/
theorem context_leave {before entered : Tree Callback} {scope : Scope}
    (hfits : Fits past before mark scope) (hentered : Entered before scope entered)
    (hbefore : before.Oriented) (hpast : Matches past before)
    (hlater : ∀ screen ∈ later, before.next ≤ screen.number) :
    (Leads (past.enter mark) isCleared later).context.leave scope
      = (Leads past isCleared (mark.left isCleared later)).context := by
  cases later with
  | cons screen rest =>
      -- the latest screen was declared inside
      have hleft : ∃ more, mark.left isCleared (screen :: rest) = screen :: more := by
        cases mark with
        | screen id => cases isCleared <;> exact ⟨_, rfl⟩
        | container id => exact ⟨_, rfl⟩
      obtain ⟨more, hmore⟩ := hleft
      have hinside : (Leads (past.enter mark) isCleared (screen :: rest)).context
          = { screen := some screen } := History.context_of_screen _ _ _
      have hnew : before.next ≤ screen.number := hlater screen (List.mem_cons_self ..)
      rw [hmore, hinside, hentered.leave_of_new_screen hbefore]
      · rfl
      · exact fun other hother => Option.some.inj hother ▸ hnew
  | nil =>
      cases isCleared with
      | true =>
          -- there is no screen at all
          have hleft : mark.left true [] = [] := by cases mark <;> rfl
          have hempty (history : History) : (Leads history true []).context = {} :=
            History.context_reset
          rw [hleft, hempty, hempty, hentered.leave_of_new_screen hbefore]
          exact fun other hother => by cases hother
      | false =>
          cases hfits with
          | screen => rfl
          | container hscreen =>
              change (past.enter (.container before.fresh)).context.leave _ = past.context
              rw [History.context_enter_container hscreen, ← hpast.context_eq]
              exact if_pos rfl

section Close

variable {calls : List Call} (hopens : Opens session call block inside)
  (hbody : Runs inside calls ended) (horiented : session.tree.Oriented)
include hopens hbody horiented

/-- A block that did not fail, or was cleared inside, is left and no more. -/
theorem tree_close {ending : Ending} (hkept : ¬ (ending = .failed ∧ clears calls = false)) :
    (block.close ending ended).tree = ended.tree.leave block.scope := by
  cases ending with
  | returned => rfl
  | panicked => rfl
  | failed =>
      have hclears : clears calls = true := by simpa using hkept
      obtain ⟨hbefore, -, hentered⟩ := hopens.entered horiented
      have hlt := hbody.generation_lt hentered.oriented hclears
      apply rollback_of_cleared
      rw [hbefore]
      change session.tree.generation ≠ ended.tree.generation
      rw [← hentered.generation_eq]
      exact Nat.ne_of_lt hlt

/-- Closing a block closes it in the history. -/
theorem matches_close (hpast : Matches past session.tree)
    (hfits : Fits past session.tree mark block.scope)
    (hlater : ∀ screen ∈ later, session.tree.next ≤ screen.number)
    (hended : Matches (Leads (past.enter mark) (clears calls) later) ended.tree)
    (ending : Ending) :
    Matches ((Leads (past.enter mark) (clears calls) later).close ending)
      (block.close ending ended).tree := by
  -- a block that failed without a reset is undone, every other one is left
  rw [close_leads]
  split
  case isTrue hundone =>
    obtain ⟨rfl, hclears⟩ := hundone
    have hreset := (clears_eq_false_iff calls).mp hclears
    obtain ⟨hrestored, -⟩ := hbody.restored hopens horiented hreset
    exact hpast.congr hrestored.screens_eq hrestored.context_restored
  case isFalse hkept =>
    obtain ⟨-, -, hentered⟩ := hopens.entered horiented
    rw [tree_close hopens hbody horiented hkept]
    refine ⟨?_, ?_⟩
    · rw [screens_left]
      exact hended.screens_eq
    · rw [← context_leave hfits hentered horiented hpast hlater, ← hended.context_eq]
      rfl

end Close

end Block

/-! ## Runs -/

/-- A run leads from a history that matches the tree to one that matches the tree, and the screens
declared on the way are new. -/
structure Follows (past : History) (before : Tree Callback) (calls : List Call)
    (after : Tree Callback) : Prop where
  leads : ∃ later, (∀ screen ∈ later, before.next ≤ screen.number) ∧
    past.extend calls = Leads past (clears calls) later
  agrees : Matches (past.extend calls) after

theorem extend_append (past : History) (calls more : List Call) :
    past.extend (calls ++ more) = (past.extend calls).extend more :=
  List.foldl_append

theorem clears_append (calls more : List Call) :
    clears (calls ++ more) = (clears calls || clears more) := by
  simp [clears]

theorem Follows.trans {past : History} {before middle after : Tree Callback}
    {calls more : List Call} (hfirst : Follows past before calls middle)
    (hsecond : Follows (past.extend calls) middle more after)
    (hle : before.next ≤ middle.next) : Follows past before (calls ++ more) after := by
  obtain ⟨earlier, hearlier, hleads⟩ := hfirst.leads
  obtain ⟨later, hlater, hleads'⟩ := hsecond.leads
  obtain ⟨both, hboth, hsubset⟩ := leads_trans past (clears calls) (clears more) earlier later
  refine ⟨⟨both, fun screen hscreen => ?_, ?_⟩, extend_append past calls more ▸ hsecond.agrees⟩
  · rcases List.mem_append.mp (hsubset hscreen) with hnew | hold
    · exact Nat.le_trans hle (hlater screen hnew)
    · exact hearlier screen hold
  · rw [extend_append, hleads', hleads, hboth, clears_append]

theorem Steps.follows {session next : Session} {call : Call} (h : Steps session call next)
    {past : History} (hpast : Matches past session.tree) :
    Follows past session.tree [call] next.tree := by
  -- calls that change neither screens nor context leave the history as it is
  have hstays {calls : List Call} {after : Tree Callback} (hcalls : past.extend calls = past)
      (hclears : clears calls = false) (hscreens : after.screens = session.tree.screens)
      (hcontext : after.context = session.tree.context) :
      Follows past session.tree calls after := by
    constructor
    · refine ⟨[], by simp, ?_⟩
      rw [hcalls, hclears]
      rfl
    · rw [hcalls]
      exact hpast.congr hscreens hcontext
  cases h with
  | @screen args id grown h =>
      obtain ⟨rfl, rfl⟩ := addScreen_eq_ok h
      exact ⟨⟨[session.tree.fresh], by simp, rfl⟩, hpast.withScreen _⟩
  | @widget kind args id grown h =>
      obtain ⟨parent, -, rfl, hgrown⟩ := appendWidget_eq_ok h
      have hshape := Session.shape_bindNode { session with tree := grown } session.tree.fresh
      subst hgrown
      exact hstays rfl rfl hshape.screens_eq hshape.context_eq
  | reset =>
      refine ⟨⟨[], by simp, rfl⟩, ?_, History.context_reset.symm⟩
      change [] = past.reset.screens.reverse
      rw [History.screens_reset]
      rfl
  | appended h =>
      obtain ⟨parent, -, rfl, rfl⟩ := appendWidget_eq_ok h
      exact hstays rfl rfl rfl rfl
  | attached h =>
      obtain ⟨-, rfl, rfl⟩ := addWidget_eq_ok h
      exact hstays rfl rfl rfl rfl
  | edited | conventionSet | installed | uninstalled => exact hstays rfl rfl rfl rfl
  | restored presenter before =>
      have hshape := Session.shape_restore session presenter before
      exact hstays rfl rfl hshape.screens_eq hshape.context_eq

section Whole

variable {session inside ended : Session} {call : Call} {block : OpenBlock} {calls : List Call}
  (hopens : Opens session call block inside) (horiented : session.tree.Oriented)
  {past : History} (hpast : Matches past session.tree)
  (hinside : ∀ {past : History}, Matches past inside.tree →
    Follows past inside.tree calls ended.tree)
include hopens horiented hpast hinside

/-- The history of a block, from its opening until just before it is closed. -/
theorem Opens.extend_block :
    ∃ mark later, Fits past session.tree mark block.scope ∧
      (∀ screen ∈ later, session.tree.next ≤ screen.number) ∧
      Matches (Leads (past.enter mark) (clears calls) later) ended.tree ∧
      ∀ ending, past.extend (call :: calls ++ [.closed ending])
        = (Leads (past.enter mark) (clears calls) later).close ending := by
  obtain ⟨mark, hfits, hmark, hmatches⟩ := hopens.matches horiented hpast
  -- what follows inside starts at the history with the mark on top
  obtain ⟨⟨later, hnew, hleads⟩, hended⟩ := hinside hmatches
  obtain ⟨-, -, hentered⟩ := hopens.entered horiented
  refine ⟨mark, later, hfits, fun screen hscreen => ?_, hleads ▸ hended, fun ending => ?_⟩
  · have hle := hnew screen hscreen
    rw [hentered.next_eq] at hle
    exact Nat.le_of_succ_le hle
  · rw [extend_append, ← hleads, ← hmark]
    rfl

/-- A block that failed without a reset inside counts as if it had not happened. -/
theorem Opens.extend_failed (hreset : .reset ∉ calls) :
    past.extend (call :: calls ++ [.closed .failed]) = past := by
  obtain ⟨mark, later, -, -, -, hextend⟩ := hopens.extend_block horiented hpast hinside
  rw [hextend, close_leads, if_pos ⟨rfl, (clears_eq_false_iff calls).mpr hreset⟩]

theorem Opens.follows (hbody : Runs inside calls ended) (ending : Ending) :
    Follows past session.tree (call :: calls ++ [.closed ending])
      (block.close ending ended).tree := by
  obtain ⟨mark, later, hfits, hlater, hended, hextend⟩ :=
    hopens.extend_block horiented hpast hinside
  have hclears : clears (call :: calls ++ [.closed ending]) = clears calls := by
    have hcall : call ≠ .reset := by
      rintro rfl
      cases hopens
    simp [clears, Ne.symm hcall]
  constructor
  · rw [hextend, hclears, close_leads]
    split
    case isTrue hundone =>
      refine ⟨[], by simp, ?_⟩
      rw [hundone.2]
      rfl
    case isFalse =>
      refine ⟨_, fun screen hscreen => ?_, rfl⟩
      rcases mem_left hscreen with hin | rfl
      · exact hlater screen hin
      · rw [hfits.eq_fresh]
        exact Nat.le_refl _
  · rw [hextend]
    exact matches_close hopens hbody horiented hpast hfits hlater hended ending

end Whole

/-- Whatever a program does, the tree matches the history of the calls. -/
theorem Runs.follows {session last : Session} {calls : List Call} (h : Runs session calls last)
    (horiented : session.tree.Oriented) {past : History} (hpast : Matches past session.tree) :
    Follows past session.tree calls last.tree := by
  -- the induction is on the run, for every history that matches its start
  induction h generalizing past with
  | done => exact ⟨⟨[], by simp, rfl⟩, hpast⟩
  | @step session next last call calls hstep hrest ih =>
      obtain ⟨hnext, hsince⟩ := hstep.since horiented
      have hfirst := hstep.follows hpast
      exact hfirst.trans (ih hnext hfirst.agrees) hsince.next_le
  | @block session inside ended last call block calls more ending hopens hbody _ ihbody ihrest =>
      obtain ⟨-, -, hentered⟩ := hopens.entered horiented
      obtain ⟨hended, hinside⟩ := hbody.since hentered.oriented
      obtain ⟨hclosed, hsince⟩ := hopens.since ending horiented hended hinside
      have hfirst := hopens.follows horiented hpast
        (fun hmatches => ihbody hentered.oriented hmatches) hbody ending
      have hsplit : call :: calls ++ .closed ending :: more
          = (call :: calls ++ [.closed ending]) ++ more := by simp
      rw [hsplit]
      exact hfirst.trans (ihrest hclosed hfirst.agrees) hsince.next_le

/-- Wherever a program is, the tree matches the history of the calls so far. -/
theorem Reached.matches {config : Config} {calls : List Call} {session : Session}
    (h : Reached config calls session) : Matches (.of calls) session.tree := by
  induction h with
  | start => exact ⟨rfl, rfl⟩
  | run h hrun ih =>
      have hfollows := hrun.follows h.oriented ih
      rw [History.of, extend_append]
      exact hfollows.agrees
  | enter h hopens ih =>
      obtain ⟨mark, -, hmark, hmatches⟩ := hopens.matches h.oriented ih
      rw [History.of, extend_append]
      change Matches ((History.of _).after _) _
      rw [hmark]
      exact hmatches

/-- What a failed block did is left out of the history. -/
theorem Reached.of_failed {config : Config} {past calls : List Call}
    {session inside ended : Session} {call : Call} {block : OpenBlock}
    (h : Reached config past session) (hopens : Opens session call block inside)
    (hbody : Runs inside calls ended) (hreset : .reset ∉ calls) :
    History.of (past ++ (call :: calls ++ [.closed .failed])) = .of past := by
  obtain ⟨-, -, hentered⟩ := hopens.entered h.oriented
  rw [History.of, extend_append]
  exact hopens.extend_failed h.oriented h.matches
    (fun hmatches => hbody.follows hentered.oriented hmatches) hreset

end Storyboard
