import Storyboard.Proofs.Session.Accessing
import Storyboard.Proofs.Session.Resets
import Storyboard.Proofs.Session.Turns
import Storyboard.Proofs.Tree.Selection

/-!
# What a presentation begins with

A presenter is handed the tree and the screen that the selector picks, or no screen if there is
none.  The checks come first: without a presenter, or if the selector picks nothing, nothing is run
and nothing changes (`Session.Begins`).  What is picked is a screen of the tree that is handed over,
and it is there, so that a presentation lacks its first screen only if the tree is empty.

The last point needs that what stands among the screens is a screen.  Only an edit could turn one
into a widget, so sessions are looked at in which no edit has changed the kind of a node
(`Unconverted`).
-/

namespace Storyboard

open Storyboard.Tree

/-! ## Programs that convert no nodes -/

/-- The sessions in which a program can be that changes the kind of no node, with the blocks that
are open, the innermost first, and the calls so far. -/
inductive Unconverted (config : Config) : List OpenBlock → List Call → Session → Prop
  | start : Unconverted config [] [] (.ofConfig config)
  | step {blocks : List OpenBlock} {calls : List Call} {session next : Session} {call : Call}
      (h : Unconverted config blocks calls session) (hstep : Steps session call next)
      (hkinds : Keeps (fun node => node.kind) session.tree next.tree) :
      Unconverted config blocks (calls ++ [call]) next
  | enter {blocks : List OpenBlock} {calls : List Call} {session inside : Session} {call : Call}
      {block : OpenBlock} (h : Unconverted config blocks calls session)
      (hopens : Opens session call block inside) :
      Unconverted config (block :: blocks) (calls ++ [call]) inside
  | close {blocks : List OpenBlock} {block : OpenBlock} {calls : List Call} {session : Session}
      (h : Unconverted config (block :: blocks) calls session) (ending : Ending) :
      Unconverted config blocks (calls ++ [.closed ending]) (block.close ending session)

/-- The innermost open block was opened, and a program has run inside since. -/
theorem Within.exists_opens {start session : Session} {block : OpenBlock} {blocks : List OpenBlock}
    {calls : List Call} (h : Within start (block :: blocks) calls session) :
    ∃ earlier outer call inside later, Within start blocks earlier outer ∧
      Opens outer call block inside ∧ Runs inside later session ∧
      calls = earlier ++ call :: later := by
  generalize hnest : block :: blocks = nest at h
  induction h with
  | start => cases hnest
  | run _ hrun ih =>
      obtain ⟨earlier, outer, call, inside, later, houter, hopens, hbody, rfl⟩ := ih hnest
      exact ⟨earlier, outer, call, inside, _, houter, hopens, hbody.append hrun, by simp⟩
  | enter houter hopens _ =>
      cases hnest
      exact ⟨_, _, _, _, [], houter, hopens, .done _, rfl⟩

namespace Unconverted

variable {config : Config} {blocks : List OpenBlock} {calls : List Call} {session : Session}

theorem within (h : Unconverted config blocks calls session) :
    Within (.ofConfig config) blocks calls session := by
  induction h with
  | start => exact .start
  | step _ hstep _ ih => exact ih.run (.single hstep)
  | enter _ hopens ih => exact ih.enter hopens
  | @close blocks block calls session _ ending ih =>
      obtain ⟨earlier, outer, call, inside, later, houter, hopens, hbody, rfl⟩ := ih.exists_opens
      have hblock :
          Runs outer (call :: later ++ .closed ending :: []) (block.close ending session) :=
        .block hopens hbody (.done _)
      simpa using houter.run hblock

theorem reached (h : Unconverted config blocks calls session) : Reached config calls session :=
  h.within.reached .start

end Unconverted

/-- Only an edit changes the kind of a node. -/
theorem Steps.keeps_kind {session next : Session} {call : Call} (h : Steps session call next)
    (hcall : ∀ id, call ≠ .edited id) : Keeps (fun node => node.kind) session.tree next.tree := by
  apply h.keeps
  exact ⟨fun id hid => hcall id (List.mem_singleton.mp hid).symm, fun _ _ _ _ _ => rfl⟩

/-- An edit of other fields does not, either. -/
theorem keeps_kind_modify (tree : Tree Callback) (id : NodeId)
    {change : Node Callback → Node Callback} (hchange : ∀ node, (change node).kind = node.kind) :
    Keeps (fun node => node.kind) tree (tree.modify id change) where
  next_le := Nat.le_refl _
  view_eq other node _ hnode := by
    have hget : (tree.modify id change).get? other
        = if other = id then (tree.get? other).map change else tree.get? other :=
      Registry.get?_modify _ _ _ _
    rw [hget] at hnode
    split at hnode
    · obtain ⟨old, hold, rfl⟩ := Option.map_eq_some_iff.mp hnode
      exact ⟨old, hold, hchange old⟩
    · exact ⟨node, hnode, rfl⟩

/-! ## Screens -/

/-- What stands among the screens is a screen. -/
def Tree.ListsScreens {κ : Type} (tree : Tree κ) : Prop :=
  ∀ screen ∈ tree.screens, ∀ node, tree.get? screen = some node → node.isScreen = true

section ListsScreens

variable {session next inside : Session} {call : Call} {block : OpenBlock}

/-- The screens are old ones and new ones that are screens. -/
def AddsScreens (before after : Tree Callback) : Prop :=
  ∀ screen ∈ after.screens, screen ∈ before.screens ∨
    ∀ node, after.get? screen = some node → node.isScreen = true

theorem AddsScreens.of_subset {before after : Tree Callback} (h : after.screens ⊆ before.screens) :
    AddsScreens before after :=
  fun _ hscreen => Or.inl (h hscreen)

theorem AddsScreens.withScreen (tree : Tree Callback) (args : Args Callback) :
    AddsScreens tree (tree.withScreen (Node.ofArgs .screen tree.convention args)) := by
  intro screen hscreen
  rcases List.mem_append.mp hscreen with hold | hnew
  · exact Or.inl hold
  · refine Or.inr fun node hnode => ?_
    have hget : (tree.withScreen (Node.ofArgs .screen tree.convention args)).get? screen
        = some (Node.ofArgs .screen tree.convention args) :=
      (tree.get?_insert _ screen).trans (if_pos (List.mem_singleton.mp hnew))
    rw [hget] at hnode
    cases hnode
    exact Node.isScreen_ofArgs_screen tree.convention args

theorem Tree.ListsScreens.of_adds {before after : Tree Callback} (h : before.ListsScreens)
    (hsound : before.Sound) (hkinds : Keeps (fun node => node.kind) before after)
    (hadds : AddsScreens before after) : after.ListsScreens := by
  intro screen hscreen node hnode
  rcases hadds screen hscreen with hold | hnew
  · have hlt : screen.number < before.next :=
      hsound.number_lt_next screen (hsound.contains_screen hold)
    obtain ⟨old, hold', hkind⟩ := hkinds.view_eq screen node hlt hnode
    have hscreen' : old.isScreen = true := h screen hold old hold'
    rw [Node.isScreen, hkind]
    exact hscreen'
  · exact hnew node hnode

theorem Steps.addsScreens (h : Steps session call next) : AddsScreens session.tree next.tree := by
  -- whatever is not the declaration of a screen leaves the list of screens alone
  have hsame {after : Tree Callback} (hshape : SameShape session.tree after) :
      AddsScreens session.tree after :=
    .of_subset fun _ hscreen => hshape.screens_eq ▸ hscreen
  cases h with
  | screen h =>
      obtain ⟨rfl, rfl⟩ := addScreen_eq_ok h
      exact .withScreen _ _
  | @widget kind args id grown h =>
      obtain ⟨parent, -, rfl, hgrown⟩ := appendWidget_eq_ok h
      have hshape := Session.shape_bindNode { session with tree := grown } session.tree.fresh
      have hscreens : grown.screens = session.tree.screens := by rw [hgrown]; rfl
      exact .of_subset fun _ hscreen => hscreens ▸ hshape.screens_eq ▸ hscreen
  | reset => exact .of_subset (List.nil_subset _)
  | appended h =>
      obtain ⟨parent, -, rfl, rfl⟩ := appendWidget_eq_ok h
      exact .of_subset (List.Subset.refl _)
  | attached h =>
      obtain ⟨-, rfl, rfl⟩ := addWidget_eq_ok h
      exact .of_subset (List.Subset.refl _)
  | edited id change => exact hsame (.modify _ _ _)
  | conventionSet => exact .of_subset (List.Subset.refl _)
  | installed presenter => exact hsame (Session.shape_rebindAll presenter _ _)
  | uninstalled => exact hsame (.refl _)
  | restored presenter before => exact hsame (Session.shape_restore session presenter before)

theorem Opens.addsScreens (h : Opens session call block inside) :
    AddsScreens session.tree inside.tree := by
  cases h with
  | screen h =>
      obtain ⟨rfl, rfl⟩ := addScreen_eq_ok h
      exact .withScreen _ _
  | container h => exact (Steps.widget h).addsScreens

theorem OpenBlock.screens_close_subset (block : OpenBlock) (ending : Ending) (session : Session) :
    (block.close ending session).tree.screens ⊆ session.tree.screens := by
  cases ending with
  | returned => exact List.Subset.refl _
  | panicked => exact List.Subset.refl _
  | failed => exact screens_rollback_subset _ _ _

/-- If no node has been converted, what stands among the screens is a screen. -/
theorem Unconverted.listsScreens {config : Config} {blocks : List OpenBlock} {calls : List Call}
    {session : Session} (h : Unconverted config blocks calls session) :
    session.tree.ListsScreens := by
  induction h with
  | start =>
      intro screen hscreen
      cases hscreen
  | step h hstep hkinds ih =>
      exact ih.of_adds h.reached.oriented.toSound hkinds hstep.addsScreens
  | enter h hopens ih =>
      exact ih.of_adds h.reached.oriented.toSound hopens.keeps hopens.addsScreens
  | close h ending ih =>
      exact ih.of_adds h.reached.oriented.toSound (OpenBlock.keeps_close _ ending _)
        (.of_subset (OpenBlock.screens_close_subset _ ending _))

end ListsScreens

/-! ## Presentations -/

/-- How a presenter does its part in the form of the keywords: in place, or taken out of the session
and put back afterwards. -/
def Mode.performed (mode : Mode) (presenter : Presenter) (performance : Act Unit) (world : World) :
    Except Halt Unit × World :=
  match mode with
  | .exclusive => performance.exec world
  | .ambient =>
      let (outcome, ended) := performance.exec { world with session := world.session.uninstall }
      (outcome, { ended with
        session := ended.session.conclude presenter world.session.tree (.of outcome) })

/-- The presenter is run once, with the tree and the entry, whatever it does. -/
def Session.Presents (session : Session) (mode : Mode) (selector : Selector)
    (presenter : Presenter) (entry : Option NodeId) : Prop :=
  ∀ (run : Performing) (world : World), world.session = session →
    (mode.engine.present run selector).exec world =
      mode.performed presenter (run presenter (session.presentation entry)) world

/-- The screen that a presenter finds under the entry it is handed. -/
def Presentation.entryScreen? (presentation : Presentation) : Option NodeId :=
  presentation.entry.bind presentation.tree.asScreen?

/-- The entry is none if the tree is empty, and otherwise one of its screens. -/
structure Session.BeginsWith (session : Session) (entry : Option NodeId) : Prop where
  eq_none_iff : entry = none ↔ session.tree.isEmpty = true
  live : ∀ screen, entry = some screen →
    screen ∈ session.tree.screens ∧ session.tree.contains screen = true
  entryScreen?_eq : (session.presentation entry).entryScreen? = entry

/-- What a presentation begins with, and what it is refused for. -/
structure Session.Begins (session : Session) : Prop where
  presents : ∀ (mode : Mode) (selector : Selector) presenter entry,
    session.presenter = some presenter → selector.Picks session.tree entry →
    session.Presents mode selector presenter entry
  /-- Something is presented just if there is a presenter and the selector picks something. -/
  presents_iff : ∀ (mode : Mode) (selector : Selector),
    (∃ presenter entry, session.Presents mode selector presenter entry) ↔
      (∃ presenter, session.presenter = some presenter) ∧
        ∃ entry, selector.Picks session.tree entry
  unavailable : ∀ (mode : Mode) (selector : Selector) (run : Performing) (world : World),
    world.session = session → session.presenter = none →
    (mode.engine.present run selector).Refuses world .presenterUnavailable
  notFound : ∀ (mode : Mode) (selector : Selector) (run : Performing) (world : World) presenter,
    world.session = session → session.presenter = some presenter →
    (∀ entry, ¬ selector.Picks session.tree entry) →
    (mode.engine.present run selector).Refuses world (.screenNotFound selector.describe)
  unique : ∀ (selector : Selector) entry other, selector.Picks session.tree entry →
    selector.Picks session.tree other → entry = other
  beginsWith : ∀ (selector : Selector) entry, selector.Picks session.tree entry →
    session.BeginsWith entry

section Present

variable {mode : Mode} {selector : Selector} {world : World} {presenter : Presenter}
  {entry : Option NodeId}

theorem exec_present_of_select (hpresenter : world.session.presenter = some presenter)
    (hentry : world.session.tree.select selector = .ok entry) (run : Performing) :
    (mode.engine.present run selector).exec world =
      mode.performed presenter (run presenter (world.session.presentation entry)) world := by
  cases mode with
  | exclusive =>
      have hexec := Act.exec_exclusivePresent run selector world
      simp only [hpresenter, hentry] at hexec
      exact hexec
  | ambient => exact Stage.exec_present hpresenter hentry run

theorem refuses_of_presenter_eq_none (hpresenter : world.session.presenter = none)
    (run : Performing) :
    (mode.engine.present run selector).Refuses world .presenterUnavailable := by
  cases mode with
  | exclusive =>
      have hexec := Act.exec_exclusivePresent run selector world
      simp only [hpresenter] at hexec
      exact hexec
  | ambient =>
      have hexec := Act.exec_ambientPresent run selector world
      simp only [hpresenter] at hexec
      exact hexec

theorem refuses_of_select_eq_error {error : Error}
    (hpresenter : world.session.presenter = some presenter)
    (hentry : world.session.tree.select selector = .error error) (run : Performing) :
    (mode.engine.present run selector).Refuses world error := by
  cases mode with
  | exclusive =>
      have hexec := Act.exec_exclusivePresent run selector world
      simp only [hpresenter, hentry] at hexec
      exact hexec
  | ambient =>
      have hexec := Act.exec_ambientPresent run selector world
      simp only [hpresenter, hentry] at hexec
      exact hexec

/-- A call that has a presenter present is not refused. -/
theorem Session.Presents.not_refuses {session : Session} {error : Error}
    (h : session.Presents mode selector presenter entry) (hworld : world.session = session) :
    ¬ ∀ run : Performing, (mode.engine.present run selector).Refuses world error := by
  intro hrefuses
  -- a presenter that does nothing ends well
  have hpresents := h (fun _ _ => pure ()) world hworld
  rw [hrefuses] at hpresents
  cases mode with
  | exclusive => cases hpresents
  | ambient => cases hpresents

end Present

theorem Session.beginsWith_of_picks {session : Session} {selector : Selector}
    {entry : Option NodeId} (hsound : session.tree.Sound) (hscreens : session.tree.ListsScreens)
    (hpicks : selector.Picks session.tree entry) : session.BeginsWith entry := by
  cases entry with
  | none => exact ⟨by simpa using picks_none_iff.mp hpicks, nofun, rfl⟩
  | some screen =>
      have hmem : screen ∈ session.tree.screens := mem_screens_of_picks hpicks
      have hlive : session.tree.contains screen = true := hsound.contains_screen hmem
      refine ⟨by simp [isEmpty_eq_false hlive], fun other hother => ?_, ?_⟩
      · obtain rfl : screen = other := Option.some.inj hother
        exact ⟨hmem, hlive⟩
      · obtain ⟨node, hnode⟩ := Option.isSome_iff_exists.mp hlive
        have hget : session.tree.get? screen = some node := hnode
        change session.tree.asScreen? screen = some screen
        rw [asScreen?, hget]
        exact if_pos (hscreens screen hmem node hget)

/-- If no node has been converted, a presentation begins with the screen that the selector picks,
and without a presenter or a screen nothing is presented. -/
theorem Unconverted.begins {config : Config} {blocks : List OpenBlock} {calls : List Call}
    {session : Session} (h : Unconverted config blocks calls session) : session.Begins := by
  have hsound : session.tree.Sound := h.reached.oriented.toSound
  have hpresents (mode : Mode) (selector : Selector) (presenter : Presenter)
      (entry : Option NodeId) (hpresenter : session.presenter = some presenter)
      (hpicks : selector.Picks session.tree entry) :
      session.Presents mode selector presenter entry := by
    rintro run world rfl
    exact exec_present_of_select hpresenter (hsound.select_eq_ok_iff.mpr hpicks) run
  have hunavailable (mode : Mode) (selector : Selector) (run : Performing) (world : World)
      (hworld : world.session = session) (hpresenter : session.presenter = none) :
      (mode.engine.present run selector).Refuses world .presenterUnavailable := by
    subst hworld
    exact refuses_of_presenter_eq_none hpresenter run
  have hnotFound (mode : Mode) (selector : Selector) (run : Performing) (world : World)
      (presenter : Presenter) (hworld : world.session = session)
      (hpresenter : session.presenter = some presenter)
      (hnone : ∀ entry, ¬ selector.Picks session.tree entry) :
      (mode.engine.present run selector).Refuses world (.screenNotFound selector.describe) := by
    subst hworld
    exact refuses_of_select_eq_error hpresenter (hsound.select_eq_error hnone) run
  refine ⟨hpresents, fun mode selector => ⟨?_, ?_⟩, hunavailable, hnotFound,
    fun _ _ _ => hsound.picks_unique,
    fun _ _ hpicks => session.beginsWith_of_picks hsound h.listsScreens hpicks⟩
  · -- what is presented is not refused for either reason
    rintro ⟨presenter, entry, hpresented⟩
    have hworld : (World.mk session {}).session = session := rfl
    cases hpresenter : session.presenter with
    | none =>
        exact absurd (fun run => hunavailable mode selector run _ hworld hpresenter)
          (hpresented.not_refuses hworld)
    | some installed =>
        refine ⟨⟨installed, rfl⟩, ?_⟩
        by_contra hnone
        exact absurd (fun run => hnotFound mode selector run _ installed hworld hpresenter
          (not_exists.mp hnone)) (hpresented.not_refuses hworld)
  · rintro ⟨⟨presenter, hpresenter⟩, entry, hpicks⟩
    exact ⟨presenter, entry, hpresents mode selector presenter entry hpresenter hpicks⟩

/-- A session with a guide and two screens. -/
def pairSession : Session :=
  { guidedSession with
    tree := guidedSession.tree.withScreen { kind := .screen, text := "Away" } }

/-- The second screen has been given the title of the first one. -/
def twinSession : Session :=
  { pairSession with tree := pairSession.tree.modify ⟨1⟩ fun node => { node with text := "Home" } }

/-- The first one of the two is picked by the title, and no third one by its place. -/
theorem begins_twin :
    Unconverted {} [] [.installed, .screen ⟨0⟩, .screen ⟨1⟩, .edited ⟨1⟩] twinSession ∧
      twinSession.Begins ∧
      twinSession.Presents .ambient (.title "Home") guide (some ⟨0⟩) ∧
      ∀ entry, ¬ (Selector.index 2).Picks twinSession.tree entry := by
  have hscreen : ((Session.ofConfig {}).install guide).tree.addScreen (.text "Home")
      = .ok (⟨0⟩, guidedSession.tree) := rfl
  have hpair : guidedSession.tree.addScreen (.text "Away") = .ok (⟨1⟩, pairSession.tree) := rfl
  have hinstalled : Unconverted {} [] [.installed] ((Session.ofConfig {}).install guide) :=
    .step .start (.installed guide) ((Steps.installed guide).keeps_kind nofun)
  have hguided : Unconverted {} [] [.installed, .screen ⟨0⟩] guidedSession :=
    hinstalled.step (.screen hscreen) ((Steps.screen hscreen).keeps_kind nofun)
  have hpaired : Unconverted {} [] [.installed, .screen ⟨0⟩, .screen ⟨1⟩] pairSession :=
    hguided.step (.screen hpair) ((Steps.screen hpair).keeps_kind nofun)
  have htwin : Unconverted {} [] [.installed, .screen ⟨0⟩, .screen ⟨1⟩, .edited ⟨1⟩] twinSession :=
    hpaired.step (.edited ⟨1⟩ fun node => { node with text := "Home" })
      (keeps_kind_modify pairSession.tree ⟨1⟩ fun _ => rfl)
  have hbegins : twinSession.Begins := Unconverted.begins htwin
  have hscreens : twinSession.tree.screens = [] ++ ⟨0⟩ :: [⟨1⟩] := rfl
  refine ⟨htwin, hbegins, ?_, fun entry hpicks => ?_⟩
  · exact hbegins.presents .ambient (.title "Home") guide (some ⟨0⟩) rfl (.title hscreens rfl nofun)
  · cases hpicks with
    | nothing hempty => cases hempty
    | index hplace => cases hplace

end Storyboard
