import Storyboard.Proofs.Session.Acts
import Storyboard.Proofs.Tree.Access

/-!
# Reading a session

Whoever holds the name of a node may ask for it at any time, also when the node has left the tree:
its block has failed, or the tree was cleared.  In every session that a program can reach, an
accessor never stops the program, and neither does a question of a script; through the name of a
node that has left the tree nothing can be read, clicked or declared (`Reached.accessible`).
-/

namespace Storyboard

open Act

/-! ## Acts that only read -/

/-- In this world the act gives a value or fails with an error, and it changes nothing. -/
def Act.Reads {α : Type} (act : Act α) (world : World) : Prop :=
  ∃ outcome : Except Error α, act.exec world = (outcome.mapError .failed, world)

namespace Act.Reads

variable {α β : Type} {world : World}

theorem pure (value : α) : (Pure.pure value : Act α).Reads world := ⟨.ok value, rfl⟩

theorem ofExcept (outcome : Except Error α) : (Act.ofExcept outcome).Reads world := by
  refine ⟨outcome, ?_⟩
  rw [exec_ofExcept]
  cases outcome with
  | ok value => rfl
  | error error => rfl

theorem bind {act : Act α} {next : α → Act β} (h : act.Reads world)
    (hnext : ∀ value, act.exec world = (.ok value, world) → (next value).Reads world) :
    (act >>= next).Reads world := by
  obtain ⟨outcome, hact⟩ := h
  cases outcome with
  | ok value =>
      obtain ⟨outcome, houtcome⟩ := hnext value hact
      exact ⟨outcome, (exec_bind_ok hact).trans houtcome⟩
  | error error =>
      refine ⟨.error error, ?_⟩
      rw [exec_bind, hact]
      rfl

theorem resolve (node : Reference) : (Act.resolve node).Reads world :=
  ofExcept (world.resolve node)

end Act.Reads

theorem Act.eq_ok_of_ofExcept {α : Type} {outcome : Except Error α} {value : α} {world : World}
    (h : (ofExcept outcome).exec world = (.ok value, world)) : outcome = .ok value := by
  cases outcome with
  | ok other =>
      cases h
      rfl
  | error error => cases h

/-! ## Questions -/

section

variable {world : World} {tree : Tree Callback}

theorem Act.Reads.viewOf {id : NodeId} (h : tree.contains id = true) :
    (Storyboard.viewOf tree id).Reads world := by
  obtain ⟨node, hnode⟩ := Option.isSome_iff_exists.mp h
  have hget : tree.get? id = some node := hnode
  simp only [Storyboard.viewOf, Tree.view?, hget]
  exact .pure _

theorem Act.Reads.viewsOf {found : Option NodeId}
    (h : ∀ id, found = some id → tree.contains id = true) :
    (found.mapM (Storyboard.viewOf tree)).Reads world := by
  cases found with
  | none => exact .pure _
  | some id => exact .bind (.viewOf (h id rfl)) fun _ _ => .pure _

theorem Position.mem_of_pick {α : Type} {listed : List α} {index : Int} {element : α}
    (h : Position.pick listed index = .ok element) : element ∈ listed := by
  unfold Position.pick at h
  split at h
  · cases h
  · split at h
    · cases h
    · next hplace =>
        cases h
        exact List.mem_of_getElem? hplace

/-- A question changes nothing, and it never stops the program. -/
theorem Query.reads_answer (query : Query) (h : world.session.tree.Sound) :
    query.answer.Reads world := by
  refine .bind ⟨.ok world.session, rfl⟩ fun session hsession => ?_
  obtain rfl : world.session = session := by simpa using hsession
  -- what the tree hands out is in the tree
  have hscreen {index : Int} {id : NodeId}
      (hid : (Act.ofExcept (world.session.tree.screenAt index)).exec world = (.ok id, world)) :
      world.session.tree.contains id = true :=
    h.contains_screen (Position.mem_of_pick (Act.eq_ok_of_ofExcept hid))
  have hchild {parent : NodeId} {index : Int} {id : NodeId}
      (hid : (Act.ofExcept (world.session.tree.widgetAt parent index)).exec world
        = (.ok id, world)) : world.session.tree.contains id = true :=
    h.contains_child (Position.mem_of_pick (Act.eq_ok_of_ofExcept hid))
  cases query with
  | config | titles | walk | withId | withType | withText | withProperty => exact .pure _
  | resolve => exact .bind (.ofExcept _) fun _ _ => .pure _
  | records => exact .bind ⟨.ok world, rfl⟩ fun _ _ => .pure _
  | screenAt =>
      exact .bind (.ofExcept _) fun _ hid => .bind (.viewOf (hscreen hid)) fun _ _ => .pure _
  | widgetAt =>
      exact .bind (.resolve _) fun _ _ => .bind (.ofExcept _) fun _ hid =>
        .bind (.viewOf (hchild hid)) fun _ _ => .pure _
  | widgetOnScreen =>
      exact .bind (.ofExcept _) fun _ _ => .bind (.ofExcept _) fun _ hid =>
        .bind (.viewOf (hchild hid)) fun _ _ => .pure _
  | lastScreen =>
      refine .bind (.viewsOf fun id hid => ?_) fun _ _ => .pure _
      exact h.contains_screen (List.mem_of_getLast? hid)
  | screenWithTitle =>
      refine .bind (.viewsOf fun id hid => ?_) fun _ _ => .pure _
      exact h.contains_screen (List.mem_of_find?_eq_some hid)
  | screenNamed =>
      refine .bind (.resolve _) fun target _ => .bind (.viewsOf fun id hid => ?_) fun _ _ => .pure _
      obtain ⟨rfl, hlive⟩ := Tree.asScreen?_eq_some hid
      exact hlive
  | node | contains | parent | children | outlineFrom | walkFrom =>
      exact .bind (.resolve _) fun _ _ => .pure _

end

/-! ## Nodes that have left the tree -/

/-- The act fails with the error and changes nothing. -/
def Act.Refuses {α : Type} (act : Act α) (world : World) (error : Error) : Prop :=
  act.exec world = (.error (.failed error), world)

namespace Act.Refuses

variable {α β : Type} {world : World} {error : Error}

theorem bind {act : Act α} (h : act.Refuses world error) (next : α → Act β) :
    (act >>= next).Refuses world error := by
  rw [Refuses, exec_bind, h]

theorem of_ok {act : Act α} {next : α → Act β} {value : α}
    (hact : act.exec world = (.ok value, world)) (h : (next value).Refuses world error) :
    (act >>= next).Refuses world error :=
  (exec_bind_ok hact).trans h

theorem ofExcept {outcome : Except Error α} (h : outcome = .error error) :
    (Act.ofExcept outcome).Refuses world error := by
  rw [Refuses, exec_ofExcept, h]

end Act.Refuses

/-- Nothing can be read through the name of the node, and nothing can be done with it. -/
structure Session.Lacks (session : Session) (id : NodeId) : Prop where
  get?_eq : session.tree.get? id = none
  childrenOf_eq : session.tree.childrenOf id = []
  widgetRef_eq : ∀ index, session.tree.widgetRef id index =
    .error (.failed (.indexOutOfRange index.toInt 0))
  handleOf_eq : session.handleOf id = .error .unknownNode
  addWidget_eq : ∀ args kind, session.tree.addWidget id args kind = .error .unknownNode
  refused : ∀ run mode place reference world, world.session = session →
    world.resolve reference = .ok id →
    (perform run mode place (.click reference)).Refuses world .unknownNode ∧
    (perform run mode place (.readText reference)).Refuses world .unknownNode ∧
    ∀ kind draft args, draft.read place = .ok args →
      (perform run mode place (.addWidget reference kind draft)).Refuses world .unknownNode

theorem Session.lacks {session : Session} (h : session.tree.Sound) {id : NodeId}
    (hid : session.tree.contains id = false) : session.Lacks id := by
  have hget : session.tree.get? id = none := (Tree.get?_eq_none_iff _ _).mpr hid
  have hchildren : session.tree.childrenOf id = [] := h.consistent.childrenOf_eq_nil hid
  have hhandle : session.handleOf id = .error .unknownNode := by rw [handleOf, hget]
  have hadd (args : Args Callback) (kind : WidgetKind) :
      session.tree.addWidget id args kind = .error .unknownNode := by
    rw [Tree.addWidget, if_neg (by simp [hid])]
  refine ⟨hget, hchildren, fun index => ?_, hhandle, hadd, ?_⟩
  · have houtside := (h.givesReferences.widgetRef id index).outside
    rw [hchildren] at houtside
    exact houtside fun ⟨hlow, hhigh⟩ => absurd hhigh (Int.not_lt.mpr hlow)
  · rintro run mode place reference world rfl hreference
    have hresolve : (Act.resolve reference).exec world = (.ok id, world) := by
      change (ofExcept (world.resolve reference)).exec world = _
      rw [hreference]
      rfl
    have hsession : Act.session.exec world = (.ok world.session, world) := exec_session world
    refine ⟨?_, ?_, fun kind draft args hargs => ?_⟩
    · apply Refuses.bind
      apply Refuses.of_ok hresolve
      apply Refuses.of_ok hsession
      exact (Refuses.ofExcept hhandle).bind _
    · apply Refuses.bind
      apply Refuses.of_ok hresolve
      apply Refuses.of_ok hsession
      exact (Refuses.ofExcept hhandle).bind _
    · have hread : (ofExcept (draft.read place)).exec world = (.ok args, world) := by
        rw [hargs]
        rfl
      apply Refuses.of_ok hread
      apply Refuses.of_ok hresolve
      apply Refuses.bind
      rw [Refuses, exec_growTree, hadd]

/-! ## Reached sessions -/

/-- Reading the session never stops the program, and names of nodes that have left it do no harm. -/
structure Session.Accessible (session : Session) : Prop where
  tree : session.tree.Accessible
  answer : ∀ query world, world.session = session → (Query.answer query).Reads world
  lacks : ∀ id, session.tree.contains id = false → session.Lacks id

/-- Wherever a program is, everything that is in the tree can be read, and whatever has left it is
refused. -/
theorem Reached.accessible {config : Config} {calls : List Call} {session : Session}
    (h : Reached config calls session) : session.Accessible where
  tree := h.oriented.toSound.givesReferences
  answer := by
    rintro query world rfl
    exact query.reads_answer h.oriented.toSound
  lacks _ hid := session.lacks h.oriented.toSound hid

/-- The tree of `homeSession` has been cleared, and another screen has been declared. -/
def movedSession : Session :=
  { homeSession with
    tree := homeSession.reset.tree.withScreen { kind := .screen, text := "Away" } }

/-- The first screen has left the tree, and its name is asked for at two indices. -/
theorem accessible_moved :
    Reached {} [.screen ⟨0⟩, .reset, .screen ⟨1⟩] movedSession ∧ movedSession.Accessible ∧
      movedSession.Lacks ⟨0⟩ ∧
      movedSession.tree.screenRef ⟨.byte, true, 0⟩
        = .ok ⟨⟨1⟩, { kind := .screen, text := "Away" }⟩ ∧
      movedSession.tree.screenRef ⟨.byte, true, 255⟩ =
        .error (.failed (.indexOutOfRange (-1) 1)) := by
  have hscreen :
      homeSession.reset.tree.addScreen (.text "Away") = .ok (⟨1⟩, movedSession.tree) := rfl
  have hreached : Reached {} [.screen ⟨0⟩, .reset, .screen ⟨1⟩] movedSession :=
    reached_home.run (.step .reset (.single (.screen hscreen)))
  have haccessible : movedSession.Accessible := Reached.accessible hreached
  exact ⟨hreached, haccessible, haccessible.lacks ⟨0⟩ rfl, rfl, rfl⟩

end Storyboard
