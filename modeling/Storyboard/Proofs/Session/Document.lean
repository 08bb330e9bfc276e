import Storyboard.Proofs.Session.Pointing
import Storyboard.Proofs.Tree.Document

/-!
# Document order is the order of declaration

The numbers that a tree gives out are used up one by one, whatever becomes of the nodes, so the
nodes that a program declares are numbered in the order of its calls (`Runs.declares`).  Unless
nodes are attached by hand, the tree is in document order wherever the program is
(`Reached.inDocumentOrder`).  Together, a walk lists what is left of the declared nodes in the order
of the calls that declared them, and so does every query (`Reached.lists`).
-/

namespace Storyboard

/-- The node that a call declares, if it is a declaration. -/
def Call.declared? : Call → Option NodeId
  | .screen id | .widget id | .screenOpened id | .containerOpened id => some id
  | .appended id | .attached _ id => some id
  | _ => none

/-- The nodes that are declared, in the order of the calls. -/
def declarations (calls : List Call) : List NodeId := calls.filterMap Call.declared?

theorem declarations_append (calls more : List Call) :
    declarations (calls ++ more) = declarations calls ++ declarations more :=
  List.filterMap_append

/-- The nodes with a number from `first` on and below `last`, in order. -/
structure Numbered (first last : Nat) (ids : List NodeId) : Prop where
  le : first ≤ last
  inOrder : InOrder ids
  mem_iff : ∀ id, id ∈ ids ↔ first ≤ id.number ∧ id.number < last

namespace Numbered

theorem nil (number : Nat) : Numbered number number [] where
  le := Nat.le_refl _
  inOrder := List.Pairwise.nil
  mem_iff id := by
    simp only [List.not_mem_nil, false_iff]
    omega

theorem single (number : Nat) : Numbered number (number + 1) [⟨number⟩] where
  le := Nat.le_succ _
  inOrder := List.pairwise_singleton _ _
  mem_iff id := by
    rw [List.mem_singleton]
    constructor
    · rintro rfl
      exact ⟨Nat.le_refl _, Nat.lt_succ_self _⟩
    · rintro ⟨hle, hlt⟩
      apply NodeId.eq_of_number_eq
      exact Nat.le_antisymm (Nat.le_of_lt_succ hlt) hle

theorem append {first middle last : Nat} {ids more : List NodeId}
    (hids : Numbered first middle ids) (hmore : Numbered middle last more) :
    Numbered first last (ids ++ more) where
  le := Nat.le_trans hids.le hmore.le
  inOrder := by
    refine hids.inOrder.append hmore.inOrder fun earlier hearlier later hlater => ?_
    have hlt := ((hids.mem_iff earlier).mp hearlier).2
    have hle := ((hmore.mem_iff later).mp hlater).1
    omega
  mem_iff id := by
    have hfirst := hids.le
    have hlast := hmore.le
    rw [List.mem_append, hids.mem_iff, hmore.mem_iff]
    omega

end Numbered

open Storyboard.Tree

/-! ## Declarations use up numbers -/

theorem Session.next_bindNode (session : Session) (id : NodeId) :
    (session.bindNode id).tree.next = session.tree.next :=
  (session.shape_bindNode id).next_eq

theorem Steps.declares {session next : Session} {call : Call} (h : Steps session call next) :
    Numbered session.tree.next next.tree.next (declarations [call]) := by
  -- a call declares one node, or it leaves the next number as it is
  cases h with
  | screen h =>
      obtain ⟨rfl, rfl⟩ := addScreen_eq_ok h
      exact .single _
  | widget h =>
      obtain ⟨parent, -, rfl, rfl⟩ := appendWidget_eq_ok h
      rw [Session.next_bindNode]
      exact .single _
  | appended h =>
      obtain ⟨parent, -, rfl, rfl⟩ := appendWidget_eq_ok h
      exact .single _
  | attached h =>
      obtain ⟨-, rfl, rfl⟩ := addWidget_eq_ok h
      exact .single _
  | restored presenter before =>
      rw [(Session.shape_restore session presenter before).next_eq]
      exact .nil _
  | reset | edited | conventionSet | installed | uninstalled => exact .nil _

theorem Opens.declares {session inside : Session} {call : Call} {block : OpenBlock}
    (h : Opens session call block inside) :
    Numbered session.tree.next inside.tree.next (declarations [call]) := by
  cases h with
  | screen h =>
      obtain ⟨rfl, rfl⟩ := addScreen_eq_ok h
      exact .single _
  | @container kind args id grown h =>
      obtain ⟨parent, -, rfl, hgrown⟩ := appendWidget_eq_ok h
      have hnext := Session.next_bindNode { session with tree := grown } session.tree.fresh
      have hnumbered : Numbered session.tree.next grown.next [session.tree.fresh] := by
        rw [hgrown]
        exact .single _
      exact hnext ▸ hnumbered

/-- Numbers that have been given out are not given out again, even if the block failed. -/
theorem OpenBlock.next_close (block : OpenBlock) (ending : Ending) (ended : Session) :
    (block.close ending ended).tree.next = ended.tree.next := by
  cases ending with
  | returned => rfl
  | panicked => rfl
  | failed => exact (rollback_frame (ended.tree.leave block.scope) block.before block.node).2.2

/-- A program declares the nodes whose numbers it uses up, in order. -/
theorem Runs.declares {session last : Session} {calls : List Call} (h : Runs session calls last) :
    Numbered session.tree.next last.tree.next (declarations calls) := by
  induction h with
  | done session => exact .nil _
  | @step session next last call calls hstep _ ih =>
      have hcalls : declarations (call :: calls) = declarations [call] ++ declarations calls :=
        declarations_append [call] calls
      rw [hcalls]
      exact hstep.declares.append ih
  | @block session inside ended last call block calls more ending hopens _ _ ihbody ihrest =>
      have hcalls : declarations (call :: calls ++ .closed ending :: more)
          = declarations [call] ++ (declarations calls ++ declarations more) := by
        calc declarations (call :: calls ++ .closed ending :: more)
            = declarations ([call] ++ (calls ++ ([.closed ending] ++ more))) := by simp
          _ = _ := by simp only [declarations_append]; rfl
      rw [hcalls]
      rw [block.next_close] at ihrest
      exact hopens.declares.append (ihbody.append ihrest)

theorem Reached.declares {config : Config} {calls : List Call} {session : Session}
    (h : Reached config calls session) :
    Numbered 0 session.tree.next (declarations calls) := by
  induction h with
  | start => exact .nil _
  | run _ hrun ih =>
      rw [declarations_append]
      exact ih.append hrun.declares
  | enter _ hopens ih =>
      rw [declarations_append]
      exact ih.append hopens.declares

/-! ## Programs keep trees in document order -/

theorem Steps.inDocumentOrder {session next : Session} {call : Call} (h : Steps session call next)
    (hcall : attachments [call] = []) (horiented : session.tree.Oriented)
    (hordered : session.tree.InDocumentOrder) : next.tree.InDocumentOrder := by
  cases h with
  | screen h =>
      obtain ⟨rfl, rfl⟩ := addScreen_eq_ok h
      exact hordered.withScreen horiented _
  | @widget kind args id grown h =>
      obtain ⟨parent, htarget, rfl, hgrown⟩ := appendWidget_eq_ok h
      have hshape := Session.shape_bindNode { session with tree := grown } session.tree.fresh
      subst hgrown
      have hparent := horiented.contains_target htarget
      exact (hordered.insertChild horiented _ hparent htarget).reshape hshape
  | appended h =>
      obtain ⟨parent, htarget, rfl, rfl⟩ := appendWidget_eq_ok h
      exact hordered.insertChild horiented _ (horiented.contains_target htarget) htarget
  | attached h =>
      -- such a widget may stand anywhere
      cases hcall
  | reset => exact .of_empty fun _ => rfl
  | edited id change => exact hordered.reshape (.modify _ _ _)
  | conventionSet => exact hordered.congr (fun _ => rfl) (fun _ => rfl) rfl
  | installed presenter => exact hordered.reshape (Session.shape_rebindAll presenter _ _)
  | uninstalled => exact hordered
  | restored presenter before =>
      exact hordered.reshape (Session.shape_restore session presenter before)

theorem Opens.inDocumentOrder {session inside : Session} {call : Call} {block : OpenBlock}
    (h : Opens session call block inside) (horiented : session.tree.Oriented)
    (hordered : session.tree.InDocumentOrder) : inside.tree.InDocumentOrder := by
  have hentered := (h.entered horiented).2.2
  apply hentered.inDocumentOrder
  cases h with
  | screen h =>
      obtain ⟨rfl, rfl⟩ := addScreen_eq_ok h
      exact (hordered.withScreen horiented _).contiguous
  | @container kind args id grown h =>
      obtain ⟨parent, htarget, rfl, hgrown⟩ := appendWidget_eq_ok h
      have hshape := Session.shape_bindNode { session with tree := grown } session.tree.fresh
      subst hgrown
      have hparent := horiented.contains_target htarget
      have hdeclared := (hordered.insertChild horiented _ hparent htarget).reshape hshape
      -- to enter the container changes the context alone
      exact hdeclared.contiguous.congr (fun _ => rfl) fun _ => rfl

theorem Opens.inDocumentOrder_close {session inside ended : Session} {call : Call}
    {block : OpenBlock} {calls : List Call} (h : Opens session call block inside) (ending : Ending)
    (hbody : Runs inside calls ended) (hcalls : attachments calls = [])
    (horiented : session.tree.Oriented) (hordered : session.tree.InDocumentOrder)
    (hended : ended.tree.InDocumentOrder) : (block.close ending ended).tree.InDocumentOrder := by
  obtain ⟨hbefore, hnode, hentered⟩ := h.entered horiented
  obtain ⟨horiented', hsince⟩ := hbody.since hentered.oriented
  rw [hcalls] at hsince
  have hleft := hentered.inDocumentOrder_leave horiented hsince horiented' hordered hended
  cases ending with
  | returned => exact hleft
  | panicked => exact hleft
  | failed =>
      have hundone := hentered.inDocumentOrder_undone horiented hsince horiented' hordered hended
      rw [← hbefore, ← hnode] at hundone
      exact hundone

/-- A program that attaches nothing by hand leaves the tree in document order. -/
theorem Runs.inDocumentOrder {session last : Session} {calls : List Call}
    (h : Runs session calls last) (hcalls : attachments calls = [])
    (horiented : session.tree.Oriented) (hordered : session.tree.InDocumentOrder) :
    last.tree.InDocumentOrder := by
  induction h with
  | done => exact hordered
  | @step session next last call calls hstep _ ih =>
      have hparts : attachments [call] = [] ∧ attachments calls = [] :=
        List.append_eq_nil_iff.mp ((attachments_append [call] calls).symm.trans hcalls)
      have hnext := hstep.inDocumentOrder hparts.1 horiented hordered
      exact ih hparts.2 (hstep.since horiented).1 hnext
  | @block session inside ended last call block calls more ending hopens hbody _ ihbody ihrest =>
      rw [attachments_block hopens.attachment?_eq_none] at hcalls
      obtain ⟨hinner, hmore⟩ := List.append_eq_nil_iff.mp hcalls
      have hentered := (hopens.entered horiented).2.2.oriented
      have hended := ihbody hinner hentered (hopens.inDocumentOrder horiented hordered)
      obtain ⟨horiented', hsince⟩ := hbody.since hentered
      have hclosed :=
        hopens.inDocumentOrder_close ending hbody hinner horiented hordered hended
      exact ihrest hmore (hopens.since ending horiented horiented' hsince).1 hclosed

theorem Reached.inDocumentOrder {config : Config} {calls : List Call} {session : Session}
    (h : Reached config calls session) (hcalls : attachments calls = []) :
    session.tree.InDocumentOrder := by
  induction h with
  | start => exact .of_empty fun _ => rfl
  | run hreached hrun ih =>
      rw [attachments_append] at hcalls
      obtain ⟨hpast, hmore⟩ := List.append_eq_nil_iff.mp hcalls
      exact hrun.inDocumentOrder hmore hreached.oriented (ih hpast)
  | enter hreached hopens ih =>
      rw [attachments_append] at hcalls
      exact hopens.inDocumentOrder hreached.oriented (ih (List.append_eq_nil_iff.mp hcalls).1)

/-! ## Walks and queries -/

/-- The tree lists what is left of some nodes in their order, and it has no others. -/
structure Tree.Lists {κ : Type} (tree : Tree κ) (ids : List NodeId) : Prop where
  nodup : ids.Nodup
  complete : ∀ id, tree.contains id = true → id ∈ ids
  walk_eq : tree.walk = ids.filter fun id => tree.contains id
  /-- The earliest one that is left and has the id is found. -/
  queryId?_eq : ∀ text, tree.queryId? text = ids.find? (tree.satisfies fun node => node.id = text)
  query_eq : ∀ test, tree.query test = ids.filter (tree.satisfies test)
  queryType_eq : ∀ typeName,
    tree.queryType typeName = ids.filter (tree.satisfies fun node => node.typeName = typeName)

theorem Tree.contains_of_satisfies {κ : Type} {tree : Tree κ} {test : Node κ → Bool} {id : NodeId}
    (h : tree.satisfies test id = true) : tree.contains id = true := by
  unfold satisfies at h
  split at h
  · cases h
  · next hnode => exact Registry.contains_of_get? hnode

/-- For queries it is enough that the walk is right. -/
theorem Tree.Lists.of_walk {κ : Type} {tree : Tree κ} {ids : List NodeId} (hnodup : ids.Nodup)
    (hcomplete : ∀ id, tree.contains id = true → id ∈ ids)
    (hwalk : tree.walk = ids.filter fun id => tree.contains id) : tree.Lists ids := by
  -- what passes a test is in the tree, so nothing is lost with the nodes that are not
  have hboth (test : Node κ → Bool) (id : NodeId) :
      (tree.satisfies test id && tree.contains id) = tree.satisfies test id := by
    cases hpass : tree.satisfies test id with
    | false => rfl
    | true => rw [contains_of_satisfies hpass, Bool.and_self]
  have hquery (test : Node κ → Bool) : tree.query test = ids.filter (tree.satisfies test) := by
    calc tree.query test
        = (ids.filter fun id => tree.contains id).filter (tree.satisfies test) := by
          rw [query, hwalk]
      _ = ids.filter fun id => tree.satisfies test id && tree.contains id := List.filter_filter
      _ = ids.filter (tree.satisfies test) := by simp only [hboth]
  refine ⟨hnodup, hcomplete, hwalk, fun text => ?_, hquery, fun typeName => hquery _⟩
  -- the first one that passes is the first of all that pass
  rw [queryId?, ← List.head?_filter, ← List.head?_filter]
  exact congrArg List.head? (hquery _)

/-- Wherever a program is that attaches nothing by hand, a walk lists the nodes that are left in the
order of the calls that declared them, and so do queries. -/
theorem Reached.lists {config : Config} {calls : List Call} {session : Session}
    (h : Reached config calls session) (hcalls : attachments calls = []) :
    session.tree.Lists (declarations calls) := by
  have hsound := h.oriented.toSound
  have hcontiguous := (h.inDocumentOrder hcalls).contiguous
  have hnumbered := h.declares
  have hcomplete (id : NodeId) (hid : session.tree.contains id = true) : id ∈ declarations calls :=
    (hnumbered.mem_iff id).mpr ⟨Nat.zero_le _, hsound.number_lt_next id hid⟩
  -- both lists are in order, so they are the same if their members are
  apply Tree.Lists.of_walk hnumbered.inOrder.nodup hcomplete
  apply (hcontiguous.walk_inOrder hsound).ext (hnumbered.inOrder.filter _)
  intro id
  rw [hcontiguous.mem_walk_iff hsound, List.mem_filter]
  exact ⟨fun hid => ⟨hcomplete id hid, hid⟩, And.right⟩

/-- A session in which a screen has been declared inside a panel inside a table. -/
def wizardSession : Session :=
  { panelSession with
    tree := panelSession.tree.withScreen (Node.ofArgs .screen .alphanumeric (.text "Wizard")) }

theorem lists_wizard :
    Reached {} [.screen ⟨0⟩, .containerOpened ⟨1⟩, .containerOpened ⟨2⟩, .screen ⟨3⟩]
        wizardSession ∧
      wizardSession.tree.walk = [⟨0⟩, ⟨1⟩, ⟨2⟩, ⟨3⟩] ∧
      wizardSession.tree.Lists [⟨0⟩, ⟨1⟩, ⟨2⟩, ⟨3⟩] := by
  have hscreen : panelSession.tree.addScreen (.text "Wizard")
      = .ok (⟨3⟩, wizardSession.tree) := rfl
  have hreached :
      Reached {} [.screen ⟨0⟩, .containerOpened ⟨1⟩, .containerOpened ⟨2⟩, .screen ⟨3⟩]
        wizardSession :=
    reached_panel.run (.single (.screen hscreen))
  have hlists := Reached.lists hreached rfl
  exact ⟨hreached, hlists.walk_eq, hlists⟩

end Storyboard
