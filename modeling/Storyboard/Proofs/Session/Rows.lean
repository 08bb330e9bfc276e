import Storyboard.Proofs.Session.Pointing
import Storyboard.Proofs.Session.Behaviour

/-!
# Where rows live

When rows are strict, a row is refused outside of every open container, and what kind of container
is open makes no difference.  So the parent of a row is never a screen: it is a widget whose block
was opened (`Session.Housed`), however blocks are nested, fail, panic or are cleared.  Rows live in
tables as far as tables are the only widgets whose blocks are opened (`Reached.rows`); a custom
container takes rows as well (`rows_outside_tables`).
-/

namespace Storyboard

open Storyboard.Tree

/-- Every row of the tree stands below a widget that passes a test. -/
def Tree.RowsBelow {κ : Type} (tree : Tree κ) (test : NodeId → Node κ → Prop) : Prop :=
  ∀ id node, tree.get? id = some node → node.kind = .widget .row →
    ∃ parent above, tree.parent? id = some parent ∧ tree.get? parent = some above ∧
      test parent above

/-- Every row of the tree stands below a table. -/
def Tree.RowsInTables {κ : Type} (tree : Tree κ) : Prop :=
  tree.RowsBelow fun _ above => above.kind = .widget .table

theorem Tree.RowsBelow.mono {κ : Type} {tree : Tree κ} {test weaker : NodeId → Node κ → Prop}
    (h : tree.RowsBelow test)
    (hweaker : ∀ parent above, tree.get? parent = some above → test parent above →
      weaker parent above) : tree.RowsBelow weaker := by
  intro id node hnode hrow
  obtain ⟨parent, above, hparent, habove, htest⟩ := h id node hnode hrow
  exact ⟨parent, above, hparent, habove, hweaker parent above habove htest⟩

/-- A widget and the node that it makes have the same kind. -/
theorem Node.kind_ofArgs {κ : Type} (kind : NodeKind) (convention : IdConvention)
    (args : Args κ) : (ofArgs kind convention args).kind = kind := by
  cases args with
  | text value => cases kind <;> rfl
  | attributes given => rfl

theorem Session.config_bindNode (session : Session) (id : NodeId) :
    (session.bindNode id).config = session.config := by
  unfold bindNode
  split <;> rfl

/-- A widget that is declared gets a behaviour, which does not change what kind of node it is. -/
theorem Session.exists_declared (session : Session) (parent : NodeId) (node : Node Callback) :
    ∃ added : Node Callback, added.kind = node.kind ∧
      ∀ id, ({ session with tree := (session.tree.insertChild parent node).2 }.bindNode
        session.tree.fresh).tree.get? id
          = if id = session.tree.fresh then some added else session.tree.get? id := by
  refine ⟨_, ?_, session.get?_declare parent node⟩
  split <;> rfl

namespace Tree

variable {κ : Type} {tree : Tree κ}

/-- With strict rows only the innermost open container takes a row, whatever its kind. -/
theorem containers_of_destination_row {parent : NodeId}
    (h : tree.destination .row true = .ok parent) :
    ∃ rest, tree.context.containers = parent :: rest := by
  unfold destination Context.container? at h
  cases hcontainers : tree.context.containers with
  | cons container rest =>
      rw [hcontainers] at h
      split at h
      · cases h
      · cases h
        exact ⟨rest, rfl⟩
  | nil =>
      rw [hcontainers] at h
      split at h <;> cases h

/-- An open container is in the tree and stands below another node. -/
theorem Oriented.exists_outer (h : tree.Oriented) {container : NodeId} {rest : List NodeId}
    (hcontainers : tree.context.containers = container :: rest) :
    ∃ node, tree.get? container = some node ∧ ∃ outer, tree.parent? container = some outer := by
  have hlive : tree.contains container = true := h.contains_container (by simp [hcontainers])
  have hlinked := h.linked
  rw [hcontainers] at hlinked
  obtain ⟨⟨outer, houter, -⟩, -⟩ := hlinked
  obtain ⟨node, hnode⟩ := Option.isSome_iff_exists.mp hlive
  exact ⟨node, hnode, outer, houter⟩

end Tree

/-- Rows are strict, and only nodes whose block was opened are open or have rows below them. -/
structure Session.Housed (opened : NodeId → Prop) (session : Session) : Prop where
  strict : session.config.strictRows = true
  containers : ∀ container ∈ session.tree.context.containers, opened container
  /-- What stands below another node is a widget. -/
  widgets : ∀ id node parent, session.tree.get? id = some node →
    session.tree.parent? id = some parent → node.isScreen = false
  rows : session.tree.RowsBelow fun parent above => above.isScreen = false ∧ opened parent

namespace Session.Housed

variable {session after : Session} {opened : NodeId → Prop}

/-- An empty tree holds no rows. -/
theorem of_empty (hstrict : session.config.strictRows = true)
    (hcontainers : session.tree.context.containers = [])
    (hget : ∀ id, session.tree.get? id = none) : session.Housed opened where
  strict := hstrict
  containers container hcontainer := by simp [hcontainers] at hcontainer
  widgets id node parent hnode := by simp [hget] at hnode
  rows id node hnode := by simp [hget] at hnode

/-- Another context makes no difference to the nodes. -/
theorem withContext (h : session.Housed opened) {context : Context}
    (hcontainers : ∀ container ∈ context.containers, opened container) :
    { session with tree := { session.tree with context := context } }.Housed opened :=
  ⟨h.strict, hcontainers, h.widgets, h.rows⟩

/-- Nothing else matters than the nodes, their parents and the open containers. -/
theorem congr (h : session.Housed opened) (hstrict : after.config.strictRows = true)
    (hnodes : after.tree.nodes = session.tree.nodes)
    (hparents : after.tree.parents = session.tree.parents)
    (hcontext : after.tree.context = session.tree.context) : after.Housed opened where
  strict := hstrict
  containers := hcontext ▸ h.containers
  widgets := by
    simp only [get?, parent?, hnodes, hparents]
    exact h.widgets
  rows := by
    simp only [RowsBelow, get?, parent?, hnodes, hparents]
    exact h.rows

/-- A new node does no harm if it is a widget or stands nowhere, and a row stands below an opened
widget. -/
theorem of_new (h : session.Housed opened) (hsound : session.tree.Sound) (place : Option NodeId)
    {added : Node Callback} (hconfig : after.config = session.config)
    (hcontainers : ∀ container ∈ after.tree.context.containers, opened container)
    (hget : ∀ id, after.tree.get? id
      = if id = session.tree.fresh then some added else session.tree.get? id)
    (hplace : ∀ id, after.tree.parent? id
      = if id = session.tree.fresh then place else session.tree.parent? id)
    (hwidget : place ≠ none → added.isScreen = false)
    (hrow : added.kind = .widget .row → ∃ parent above, place = some parent ∧
      session.tree.get? parent = some above ∧ above.isScreen = false ∧ opened parent) :
    after.Housed opened := by
  -- the parent of a row is an older node, which is still what it was
  have hold {parent : NodeId} {above : Node Callback}
      (habove : session.tree.get? parent = some above) :
      after.tree.get? parent = some above := by
    have hlive : session.tree.contains parent = true := Registry.contains_of_get? habove
    rw [hget, if_neg (session.tree.ne_fresh (hsound.number_lt_next parent hlive)), habove]
  refine ⟨hconfig ▸ h.strict, hcontainers, fun id node parent hnode hparent => ?_,
    fun id node hnode hkind => ?_⟩
  · rw [hget] at hnode
    rw [hplace] at hparent
    by_cases hid : id = session.tree.fresh
    · rw [if_pos hid] at hnode hparent
      obtain rfl : added = node := Option.some.inj hnode
      exact hwidget (by simp [hparent])
    · rw [if_neg hid] at hnode hparent
      exact h.widgets id node parent hnode hparent
  · rw [hget] at hnode
    rw [hplace]
    by_cases hid : id = session.tree.fresh
    · rw [if_pos hid] at hnode ⊢
      obtain rfl : added = node := Option.some.inj hnode
      obtain ⟨parent, above, rfl, habove, htest⟩ := hrow hkind
      exact ⟨parent, above, rfl, hold habove, htest⟩
    · rw [if_neg hid] at hnode ⊢
      obtain ⟨parent, above, hparent, habove, htest⟩ := h.rows id node hnode hkind
      exact ⟨parent, above, hparent, hold habove, htest⟩

theorem withScreen (h : session.Housed opened) (hsound : session.tree.Sound)
    {node : Node Callback} (hscreen : node.isScreen = true) :
    { session with tree := session.tree.withScreen node }.Housed opened := by
  have hnowhere : session.tree.parent? session.tree.fresh = none :=
    hsound.consistent.parent?_eq_none hsound.contains_fresh
  refine h.of_new hsound none rfl (fun _ hcontainer => by cases hcontainer)
    (session.tree.get?_insert node) (fun id => ?_) (fun hplace => absurd rfl hplace) fun hrow => ?_
  · split
    · next hid =>
        rw [hid]
        exact hnowhere
    · rfl
  · simp [Node.isScreen, NodeKind.isScreen, hrow] at hscreen

/-- A widget that is declared is no row, or it stands below an open container. -/
theorem declare (h : session.Housed opened) (horiented : session.tree.Oriented)
    {kind : WidgetKind} {parent : NodeId} (args : Args Callback)
    (hparent : session.tree.destination kind session.config.strictRows = .ok parent) :
    ({ session with
        tree := (session.tree.insertChild parent
          (Node.ofArgs (.widget kind) session.tree.convention args)).2 }.bindNode
      session.tree.fresh).Housed opened := by
  have hshape := Session.shape_bindNode
    { session with tree := (session.tree.insertChild parent
        (Node.ofArgs (.widget kind) session.tree.convention args)).2 } session.tree.fresh
  obtain ⟨added, hkind, hget⟩ := session.exists_declared parent
    (Node.ofArgs (.widget kind) session.tree.convention args)
  rw [Node.kind_ofArgs] at hkind
  refine h.of_new horiented.toSound (some parent) ?_ ?_ hget
    (fun id => (hshape.parent? id).trans (session.tree.parent?_insertChild _ parent id))
    (fun _ => ?_) fun hrow => ?_
  · exact Session.config_bindNode _ _
  · rw [hshape.context_eq]
    exact h.containers
  · rw [Node.isScreen, hkind]
    rfl
  · obtain rfl : kind = .row := by simpa [hkind] using hrow
    rw [h.strict] at hparent
    obtain ⟨rest, hcontainers⟩ := containers_of_destination_row hparent
    obtain ⟨above, habove, outer, houter⟩ := horiented.exists_outer hcontainers
    refine ⟨parent, above, rfl, habove, h.widgets parent above outer habove houter, ?_⟩
    exact h.containers parent (by simp [hcontainers])

/-- What a scope puts back was open before its block. -/
theorem leave {scope : Scope} (h : session.Housed opened)
    (hscope : ∀ screen saved, scope = .container screen saved →
      ∀ container ∈ saved, opened container) :
    { session with tree := session.tree.leave scope }.Housed opened := by
  apply h.withContext
  intro container hcontainer
  cases scope with
  | screen => cases hcontainer
  | container screen saved =>
      unfold Context.leave at hcontainer
      dsimp only at hcontainer
      split at hcontainer
      · exact hscope screen saved rfl container hcontainer
      · cases hcontainer

end Session.Housed

/-! ## Calls -/

section Calls

variable {session next inside ended last : Session} {call : Call} {calls : List Call}
  {block : OpenBlock} {opened : NodeId → Prop}

theorem Steps.housed (h : Steps session call next) (hkeyword : call.isKeyword = true)
    (horiented : session.tree.Oriented) (hhoused : session.Housed opened) :
    next.Housed opened := by
  cases h with
  | screen h =>
      obtain ⟨rfl, rfl⟩ := addScreen_eq_ok h
      exact hhoused.withScreen horiented.toSound (Node.isScreen_ofArgs_screen _ _)
  | @widget kind args id grown h =>
      obtain ⟨parent, hparent, rfl, rfl⟩ := exists_destination h
      exact hhoused.declare horiented args hparent
  | reset => exact .of_empty hhoused.strict rfl fun _ => rfl
  | appended | attached | edited | conventionSet | installed | uninstalled | restored =>
      cases hkeyword

theorem Opens.housed (h : Opens session call block inside)
    (hopened : ∀ id, call = .containerOpened id → opened id)
    (horiented : session.tree.Oriented) (hhoused : session.Housed opened) :
    inside.Housed opened := by
  cases h with
  | screen h =>
      obtain ⟨rfl, rfl⟩ := addScreen_eq_ok h
      exact hhoused.withScreen horiented.toSound (Node.isScreen_ofArgs_screen _ _)
  | @container kind args id grown h =>
      obtain ⟨parent, hparent, rfl, rfl⟩ := exists_destination h
      have hdeclared := hhoused.declare horiented args hparent
      apply hdeclared.withContext
      intro container hcontainer
      rcases List.mem_cons.mp hcontainer with rfl | hbefore
      · exact hopened _ rfl
      · exact hdeclared.containers container hbefore

/-- A block that is closed is left, or undone altogether. -/
theorem Opens.housed_close (h : Opens session call block inside) (hbody : Runs inside calls ended)
    (hkeywords : ∀ call ∈ calls, call.isKeyword = true) (ending : Ending)
    (horiented : session.tree.Oriented) (hhoused : session.Housed opened)
    (hended : ended.Housed opened) : (block.close ending ended).Housed opened := by
  have hstrict : (block.close ending ended).config.strictRows = true := by
    cases ending <;> exact hended.strict
  have hscope : ∀ screen saved, block.scope = .container screen saved →
      ∀ container ∈ saved, opened container := by
    rintro screen saved hscope container hcontainer
    cases h with
    | screen => cases hscope
    | container =>
        cases hscope
        exact hhoused.containers container hcontainer
  have hleft := hended.leave hscope
  by_cases hundone : ending = .failed ∧ clears calls = false
  · obtain ⟨rfl, hclears⟩ := hundone
    -- the nodes from before the block are there again
    have hsame := hbody.undone h horiented ((clears_eq_false_iff calls).mp hclears) hkeywords
    refine hhoused.congr hstrict ?_ ?_ ?_
    all_goals rw [hsame]
  · have hsame := tree_close h hbody horiented hundone
    refine hleft.congr hstrict ?_ ?_ ?_
    all_goals rw [hsame]

theorem Runs.housed (h : Runs session calls last)
    (hkeywords : ∀ call ∈ calls, call.isKeyword = true)
    (hopened : ∀ id, .containerOpened id ∈ calls → opened id) (horiented : session.tree.Oriented)
    (hhoused : session.Housed opened) : last.Housed opened := by
  -- the induction is on the run; what is open when a block ends was open before it
  induction h with
  | done => exact hhoused
  | step hstep _ ih =>
      obtain ⟨hfirst, hmore⟩ := List.forall_mem_cons.mp hkeywords
      exact ih hmore (fun id hid => hopened id (List.mem_cons_of_mem _ hid))
        (hstep.since horiented).1 (hstep.housed hfirst horiented hhoused)
  | @block session inside ended last call block calls more ending hopens hbody _ ihbody ihrest =>
      have hinner : ∀ call ∈ calls, call.isKeyword = true :=
        fun call hcall => hkeywords call (by simp [hcall])
      have hentered := (hopens.entered horiented).2.2.oriented
      have hinside := hopens.housed (fun id hid => hopened id (by simp [hid])) horiented hhoused
      have hended := ihbody hinner (fun id hid => hopened id (by simp [hid])) hentered hinside
      obtain ⟨horiented', hsince⟩ := hbody.since hentered
      have hclosed := (hopens.since ending horiented horiented' hsince).1
      exact ihrest (fun call hcall => hkeywords call (by simp [hcall]))
        (fun id hid => hopened id (by simp [hid])) hclosed
        (hopens.housed_close hbody hinner ending horiented hhoused hended)

end Calls

theorem Reached.housed {config : Config} {calls : List Call} {session : Session}
    {opened : NodeId → Prop} (h : Reached config calls session) (hstrict : config.strictRows = true)
    (hkeywords : ∀ call ∈ calls, call.isKeyword = true)
    (hopened : ∀ id, .containerOpened id ∈ calls → opened id) : session.Housed opened := by
  induction h with
  | start => exact .of_empty hstrict rfl fun _ => rfl
  | run h hrun ih =>
      obtain ⟨hpast, hmore⟩ := List.forall_mem_append.mp hkeywords
      exact hrun.housed hmore (fun id hid => hopened id (by simp [hid])) h.oriented
        (ih hpast fun id hid => hopened id (by simp [hid]))
  | enter h hopens ih =>
      obtain ⟨hpast, -⟩ := List.forall_mem_append.mp hkeywords
      exact hopens.housed (fun id hid => hopened id (by simp [hid])) h.oriented
        (ih hpast fun id hid => hopened id (by simp [hid]))

/-- A program of keywords with strict rows puts every row below a widget whose block it has opened,
and so into a table if these are tables only. -/
theorem Reached.rows {config : Config} {calls : List Call} {session : Session}
    (h : Reached config calls session) (hstrict : config.strictRows = true)
    (hkeywords : ∀ call ∈ calls, call.isKeyword = true) :
    (session.tree.RowsBelow fun parent above =>
        above.isScreen = false ∧ .containerOpened parent ∈ calls) ∧
      ((∀ container node, .containerOpened container ∈ calls →
          session.tree.get? container = some node → node.kind = .widget .table) →
        session.tree.RowsInTables) := by
  have hrows := (h.housed hstrict hkeywords fun _ hid => hid).rows
  exact ⟨hrows, fun htables => hrows.mono fun parent above habove htest =>
    htables parent above htest.2 habove⟩

/-- A session inside the block of a container with one row in it. -/
def rowSession (kind : WidgetKind) : Session :=
  let container := (homeSession.tree.insertChild ⟨0⟩
    (Node.ofArgs (.widget kind) .alphanumeric (.text "Form"))).2
  let opened := { homeSession with tree := container }.enterContainer ⟨1⟩
  { opened with
    tree := (opened.tree.insertChild ⟨1⟩
      (Node.ofArgs (.widget .row) .alphanumeric (.text "Name"))).2 }

theorem reached_rowSession {kind : WidgetKind} (hkind : kind ≠ .row) :
    Reached {} [.screen ⟨0⟩, .containerOpened ⟨1⟩, .widget ⟨2⟩] (rowSession kind) := by
  have hcontainer : homeSession.tree.appendWidget kind (.text "Form") homeSession.config.strictRows
      = .ok (⟨1⟩, (homeSession.tree.insertChild ⟨0⟩
          (Node.ofArgs (.widget kind) .alphanumeric (.text "Form"))).2) := by
    unfold appendWidget destination
    simp [hkind, homeSession, Context.container?]
    rfl
  exact .run (.enter reached_home (.container hcontainer)) (.single (.widget rfl))

theorem rows_table :
    Reached {} [.screen ⟨0⟩, .containerOpened ⟨1⟩, .widget ⟨2⟩] (rowSession .table) ∧
      (rowSession .table).tree.RowsInTables := by
  have hreached : Reached {} _ (rowSession .table) := reached_rowSession (by decide)
  refine
    ⟨hreached, (Reached.rows hreached rfl (by decide)).2 fun container node hopened hnode => ?_⟩
  obtain rfl : container = ⟨1⟩ := by simpa using hopened
  cases hnode
  rfl

/-- A custom container takes a row as a table does. -/
theorem rows_outside_tables :
    Reached {} [.screen ⟨0⟩, .containerOpened ⟨1⟩, .widget ⟨2⟩] (rowSession (.custom "panel")) ∧
      ¬ (rowSession (.custom "panel")).tree.RowsInTables := by
  refine ⟨reached_rowSession (by decide), fun hrows => ?_⟩
  obtain ⟨parent, above, hparent, habove, htable⟩ := hrows ⟨2⟩ _ rfl rfl
  cases hparent
  cases habove
  cases htable

end Storyboard
