import Storyboard.Proofs.Session.Programs
import Storyboard.Proofs.Session.Routing

/-!
# Where declarations go

The node that receives a widget is given by the history of the calls alone: the innermost container
whose block is being carried out and that was opened after the last screen, or else that screen
(`History.destination`).  `Reached.routes` puts this together for every keyword of both forms, in
every session that a program can reach.
-/

namespace Storyboard

open Storyboard.Tree

/-- Where a widget of the given kind goes according to a history. -/
def History.destination (history : History) (kind : WidgetKind) (strictRows : Bool) :
    Except Error NodeId :=
  match history.screen? with
  | none => .error (.screenRequired kind.name)
  | some screen =>
      match history.containers with
      | container :: _ => .ok container
      | [] =>
          if kind = .row ∧ strictRows = true then .error (.containerRequired kind.name)
          else .ok screen

/-- The context says what the history says. -/
theorem Matches.destination_eq {history : History} {tree : Tree Callback} (h : Matches history tree)
    (kind : WidgetKind) (strictRows : Bool) :
    tree.destination kind strictRows = history.destination kind strictRows := by
  unfold Tree.destination History.destination
  rw [h.context_eq, History.context]
  cases history.screen? with
  | none => rfl
  | some screen =>
      dsimp only [Context.container?]
      cases history.containers with
      | nil => rfl
      | cons container rest => rfl

/-- A widget was declared as the history demands, or refused for one of two reasons. -/
structure Routed (history : History) (strictRows : Bool) (kind : WidgetKind)
    (declared : Node Callback)
    (before : World) (result : Except Halt NodeId) (after : World) : Prop where
  screenRequired_iff :
    result = .error (.failed (.screenRequired kind.name)) ↔ history.screen? = none
  containerRequired_iff :
    result = .error (.failed (.containerRequired kind.name)) ↔
      kind = .row ∧ strictRows = true ∧ history.containers = [] ∧
        ∃ screen, history.screen? = some screen
  /-- A refusal changes nothing. -/
  refused : ∀ halt, result = .error halt → after = before
  placed : ∀ screen, history.screen? = some screen →
    ¬ (kind = .row ∧ strictRows = true ∧ history.containers = []) →
    ∃ id, result = .ok id ∧
      after.session.tree.parent? id = some (history.containers.headD screen) ∧
      after.session.tree.childrenOf (history.containers.headD screen)
        = before.session.tree.childrenOf (history.containers.headD screen) ++ [id] ∧
      (after.session.tree.get? id).map Node.declared = some declared

namespace Routed

variable {history : History} {strictRows : Bool} {kind : WidgetKind} {declared : Node Callback}
  {before after : World} {result : Except Halt NodeId}

/-- It is enough to look at what the tree says about the destination. -/
theorem of_destination (hmatches : Matches history before.session.tree)
    (hrefused : ∀ error, before.session.tree.destination kind strictRows = .error error →
      result = .error (.failed error) ∧ after = before)
    (hplaced : ∀ parent, before.session.tree.destination kind strictRows = .ok parent →
      ∃ id, result = .ok id ∧ after.session.tree.parent? id = some parent ∧
        after.session.tree.childrenOf parent = before.session.tree.childrenOf parent ++ [id] ∧
        (after.session.tree.get? id).map Node.declared = some declared) :
    Routed history strictRows kind declared before result after := by
  rw [hmatches.destination_eq, History.destination] at hrefused hplaced
  cases hscreen : history.screen? with
  | none =>
      -- no screen: every widget is refused
      rw [hscreen] at hrefused
      obtain ⟨rfl, rfl⟩ := hrefused _ rfl
      constructor <;> simp [hscreen]
  | some screen =>
      rw [hscreen] at hrefused hplaced
      cases hcontainers : history.containers with
      | cons container rest =>
          -- an open container takes the widget
          rw [hcontainers] at hplaced
          obtain ⟨id, rfl, hplace⟩ := hplaced container rfl
          constructor
          · simp [hscreen]
          · simp [hcontainers]
          · intro halt hhalt
            cases hhalt
          · intro other _ _
            rw [hcontainers]
            exact ⟨id, rfl, hplace⟩
      | nil =>
          rw [hcontainers] at hrefused hplaced
          dsimp only at hrefused hplaced
          -- a screen without an open container takes all but rows that must have one
          by_cases hrow : kind = .row ∧ strictRows = true
          · rw [if_pos hrow] at hrefused
            obtain ⟨rfl, rfl⟩ := hrefused _ rfl
            constructor
            · simp [hscreen]
            · simp [hscreen, hcontainers, hrow]
            · exact fun _ _ => rfl
            · intro other _ hnot
              exact absurd ⟨hrow.1, hrow.2, hcontainers⟩ hnot
          · rw [if_neg hrow] at hplaced
            obtain ⟨id, rfl, hplace⟩ := hplaced screen rfl
            constructor
            · simp [hscreen]
            · simp only [reduceCtorEq, false_iff]
              exact fun hboth => hrow ⟨hboth.1, hboth.2.1⟩
            · intro halt hhalt
              cases hhalt
            · intro other hother _
              obtain rfl : screen = other := Option.some.inj (hscreen.symm.trans hother)
              rw [hcontainers]
              exact ⟨id, rfl, hplace⟩

end Routed

/-! ## The keywords -/

theorem Session.declared_bindNode (session : Session) (id other : NodeId) :
    ((session.bindNode id).tree.get? other).map Node.declared
      = (session.tree.get? other).map Node.declared := by
  unfold Session.bindNode
  split
  · rfl
  · next presenter _ =>
      have hget : (session.tree.modify id (rebind presenter)).get? other
          = if other = id then (session.tree.get? other).map (rebind presenter)
            else session.tree.get? other := Registry.get?_modify _ _ _ _
      rw [hget]
      split
      · rw [Option.map_map]
        rfl
      · rfl

theorem Reached.config_eq {config : Config} {calls : List Call} {session : Session}
    (h : Reached config calls session) : session.config = config := by
  have hbind (session : Session) (id : NodeId) : (session.bindNode id).config = session.config := by
    unfold Session.bindNode
    split <;> rfl
  have hopened {session inside : Session} {call : Call} {block : OpenBlock}
      (hopens : Opens session call block inside) : inside.config = session.config := by
    cases hopens with
    | screen => rfl
    | container => exact hbind _ _
  -- no call writes the configuration
  induction h with
  | start => rfl
  | enter _ hopens ih => exact (hopened hopens).trans ih
  | run _ hrun ih =>
      refine Eq.trans (hrun.frame Session.config ?_ hopened ?_) ih
      · intro session next call _ hstep
        cases hstep with
        | widget => exact hbind _ _
        | restored presenter before =>
            unfold Session.restore
            split <;> rfl
        | screen | reset | appended | attached | edited | conventionSet | installed
          | uninstalled => rfl
      · intro block ending ended
        cases ending <;> rfl

section Keywords

variable {config : Config} {calls : List Call} {world : World}
  (hreached : Reached config calls world.session)
include hreached

/-- What a declaration of a widget comes to, if its tree is that of the grown one in all but what
the nodes hold and where the context points. -/
theorem Reached.routed {kind : WidgetKind} {args : Args Callback} {result : Except Halt NodeId}
    {after : World}
    (hfailed : ∀ error, world.session.tree.appendWidget kind args world.session.config.strictRows
      = .error error → result = .error (.failed error) ∧ after = world)
    (hdone : ∀ id grown, world.session.tree.appendWidget kind args world.session.config.strictRows
      = .ok (id, grown) → result = .ok id ∧
        after.session.tree.parents = grown.parents ∧ after.session.tree.children = grown.children ∧
        (after.session.tree.get? id).map Node.declared = (grown.get? id).map Node.declared) :
    Routed (.of calls) config.strictRows kind
      (Node.ofArgs (.widget kind) world.session.tree.convention args) world result after := by
  rw [hreached.config_eq, Tree.appendWidget] at hfailed hdone
  apply Routed.of_destination hreached.matches
  · intro error hdestination
    rw [hdestination] at hfailed
    exact hfailed error rfl
  · intro parent hdestination
    rw [hdestination] at hdone
    obtain ⟨hresult, hparents, hchildren, hnode⟩ := hdone world.session.tree.fresh
      (world.session.tree.insertChild parent
        (Node.ofArgs (.widget kind) world.session.tree.convention args)).2 rfl
    -- the destination is in the tree, so the new node is put after its children
    have horiented := hreached.oriented
    have hparent := horiented.contains_target (destination_eq_ok hdestination)
    refine ⟨world.session.tree.fresh, hresult, ?_, ?_, ?_⟩
    · rw [Tree.parent?, hparents]
      exact (parent?_insertChild _ _ _ _).trans (if_pos rfl)
    · rw [Tree.childrenOf, hchildren]
      exact (childrenOf_insertChild _ _ horiented.toSound hparent).trans (if_pos rfl)
    · refine hnode.trans ?_
      rw [get?_insertChild, if_pos rfl]
      cases args <;> rfl

theorem Reached.routed_widget (mode : Mode) (kind : WidgetKind) (args : Args Callback) :
    Routed (.of calls) config.strictRows kind
      (Node.ofArgs (.widget kind) world.session.tree.convention args) world
      ((mode.engine.widget kind args).exec world).1
      ((mode.engine.widget kind args).exec world).2 := by
  rw [Act.exec_widget]
  apply hreached.routed
  · intro error hfailed
    rw [hfailed]
    exact ⟨rfl, rfl⟩
  · intro id grown hdone
    have hshape := Session.shape_bindNode { world.session with tree := grown } id
    rw [hdone]
    exact ⟨rfl, hshape.parents_eq, hshape.children_eq, Session.declared_bindNode _ _ _⟩

theorem Reached.routed_container (kind : WidgetKind) (args : Args Callback) :
    Routed (.of calls) config.strictRows kind
      (Node.ofArgs (.widget kind) world.session.tree.convention args) world
      (((openContainer kind args).exec world).1.map OpenBlock.node)
      ((openContainer kind args).exec world).2 := by
  rw [Act.exec_openContainer]
  apply hreached.routed
  · intro error hfailed
    rw [hfailed]
    exact ⟨rfl, rfl⟩
  · intro id grown hdone
    have hshape := Session.shape_bindNode { world.session with tree := grown } id
    rw [hdone]
    exact ⟨rfl, hshape.parents_eq, hshape.children_eq, Session.declared_bindNode _ _ _⟩

end Keywords

/-- A screen with a title is put after the others. -/
def Appended (before : World) (result : Except Halt NodeId) (after : World) : Prop :=
  ∃ id, result = .ok id ∧ after.session.tree.screens = before.session.tree.screens ++ [id]

theorem addScreen_of_title {tree : Tree Callback} {args : Args Callback}
    (htitle : (Node.ofArgs .screen tree.convention args).text ≠ "") :
    tree.addScreen args
      = .ok (tree.fresh, tree.withScreen (Node.ofArgs .screen tree.convention args)) := by
  have hnot : ¬ (Node.ofArgs .screen tree.convention args).text.isEmpty = true := by
    simpa using htitle
  rw [addScreen_eq_ite, if_neg hnot]

/-- Where the keywords of a form put what they declare. -/
structure Routes (history : History) (config : Config) (mode : Mode) (world : World) : Prop where
  widget : ∀ kind args, Routed history config.strictRows kind
    (Node.ofArgs (.widget kind) world.session.tree.convention args) world
    ((mode.engine.widget kind args).exec world).1 ((mode.engine.widget kind args).exec world).2
  /-- The widget is declared before the block is carried out. -/
  containerBlock : ∀ kind args body,
    (mode.engine.containerBlock kind args body).exec world
        = (withBlock (openContainer kind args) body).exec world ∧
      Routed history config.strictRows kind
        (Node.ofArgs (.widget kind) world.session.tree.convention args) world
        (((openContainer kind args).exec world).1.map OpenBlock.node)
        ((openContainer kind args).exec world).2
  screen : ∀ args, (Node.ofArgs .screen world.session.tree.convention args).text ≠ "" →
    Appended world ((mode.engine.screen args).exec world).1
      ((mode.engine.screen args).exec world).2
  /-- The screen is declared before the block is carried out. -/
  screenBlock : ∀ args body, (Node.ofArgs .screen world.session.tree.convention args).text ≠ "" →
    (mode.engine.screenBlock args body).exec world
        = (withBlock (openScreen args) body).exec world ∧
      Appended world (((openScreen args).exec world).1.map OpenBlock.node)
        ((openScreen args).exec world).2

/-- In every session that a program can reach, declarations go where the history of its calls says.
-/
theorem Reached.routes {config : Config} {calls : List Call} {world : World}
    (hreached : Reached config calls world.session) (mode : Mode) :
    Routes (.of calls) config mode world where
  widget kind args := hreached.routed_widget mode kind args
  containerBlock kind args body :=
    ⟨Act.exec_containerBlock world mode kind args body, hreached.routed_container kind args⟩
  screen args htitle := by
    rw [Act.exec_screen, addScreen_of_title htitle]
    exact ⟨world.session.tree.fresh, rfl, rfl⟩
  screenBlock args body htitle := by
    refine ⟨Act.exec_screenBlock world mode args body, ?_⟩
    rw [Act.exec_openScreen, addScreen_of_title htitle]
    exact ⟨world.session.tree.fresh, rfl, rfl⟩

theorem routes_table :
    Routes (.of [.screen ⟨0⟩, .containerOpened ⟨1⟩]) {} .ambient
      { session := tableSession, journal := {} } := by
  have hreached : Reached {} [.screen ⟨0⟩, .containerOpened ⟨1⟩] tableSession :=
    .enter reached_home opens_table
  exact Reached.routes hreached .ambient

end Storyboard
