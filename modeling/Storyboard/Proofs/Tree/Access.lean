import Storyboard.Proofs.Tree.Walk
import Storyboard.Tree.Ref

/-!
# References to nodes in the tree

The accessors make references from the lists of a tree, its screens and the children of its nodes,
and all that these lists name is in a sound tree.  So no accessor stops the program
(`Sound.givesReferences`): what is asked for by an index is there or the index is out of range, and
all the rest is always given.

An index of any type names the same place as the integer that it stands for (`Index.resolve_eq`),
since no type is wider than an address and all of them fit into the integers in which errors report
them.
-/

namespace Storyboard

/-! ## Indices -/

namespace Position

variable {index : Int} {length : Nat}

theorem resolve_natCast {place : Nat} (h : place < length) :
    resolve (place : Int) length = .ok place :=
  if_pos h

theorem resolve_outside (h : ¬ (0 ≤ index ∧ index < length)) :
    resolve index length = .error (.indexOutOfRange index length) := by
  cases index with
  | ofNat place =>
      have hplace : ¬ place < length := by
        intro hlt
        exact h ⟨Int.natCast_nonneg place, Int.ofNat_lt.mpr hlt⟩
      exact if_neg hplace
  | negSucc _ => rfl

end Position

namespace Index

variable (index : Index)

theorem bits_le_word (width : IndexWidth) : width.bits ≤ 64 := by
  cases width <;> decide

theorem toInt_neg_iff : index.toInt < 0 ↔ (index.isSigned && index.bits.msb) = true := by
  unfold toInt
  by_cases hsigned : index.isSigned = true
  · simp [hsigned, BitVec.msb_eq_toInt]
  · simp [hsigned]

theorem toInt_eq_toNat (h : 0 ≤ index.toInt) : index.toInt = index.bits.toNat := by
  unfold toInt at h ⊢
  split
  next hsigned =>
    rw [if_pos hsigned] at h
    have hmsb : index.bits.msb = false := by
      rw [BitVec.msb_eq_toInt]
      simpa using h
    exact BitVec.toInt_eq_toNat_of_msb hmsb
  next => rfl

/-- What is reported is the integer itself. -/
theorem toInt_widened : index.widened.toInt = index.toInt := by
  have hle := bits_le_word index.width
  unfold widened toInt
  split
  · exact BitVec.toInt_signExtend_of_le (by omega)
  · have hnat : (index.bits.setWidth 128).toNat = index.bits.toNat :=
      BitVec.toNat_setWidth_of_le (by omega)
    have hlt : index.bits.toNat < 2 ^ 64 :=
      Nat.lt_of_lt_of_le index.bits.isLt (Nat.pow_le_pow_right (by decide) hle)
    rw [BitVec.toInt_eq_toNat_of_lt (by omega), hnat]

/-- An index names the place that its integer names. -/
theorem resolve_eq (length : Nat) :
    index.resolve length = Position.resolve index.toInt length := by
  unfold resolve address?
  rw [toInt_widened]
  by_cases hnegative : index.toInt < 0
  · rw [if_pos (index.toInt_neg_iff.mp hnegative), Position.resolve_outside (by omega)]
    rfl
  · have hint := index.toInt_eq_toNat (by omega)
    have hnat : (index.bits.setWidth 64).toNat = index.bits.toNat :=
      BitVec.toNat_setWidth_of_le (bits_le_word index.width)
    rw [if_neg (fun h => hnegative (index.toInt_neg_iff.mpr h)), Option.filter_some, hnat, hint]
    by_cases hlt : index.bits.toNat < length
    · simp [hlt, hnat, Position.resolve_natCast]
    · rw [Position.resolve_outside (by omega)]
      simp [hlt]

end Index

namespace Tree

variable {κ : Type} {tree : Tree κ} {listed : List NodeId}

/-! ## Making references -/

/-- The access gives the node of the list at the index, or says that there is none. -/
structure GivesAt (tree : Tree κ) (listed : List NodeId) (index : Index)
    (access : Access (NodeRef κ)) : Prop where
  inside : ∀ (place : Nat) (h : place < listed.length), index.toInt = place →
    ∃ node, access = .ok node ∧ node.id = listed[place] ∧ tree.get? node.id = some node.data
  outside : ¬ (0 ≤ index.toInt ∧ index.toInt < listed.length) →
    access = .error (.failed (.indexOutOfRange index.toInt listed.length))

/-- The access gives the listed nodes, each with what it has. -/
def GivesAll (tree : Tree κ) (listed : List NodeId) (access : Access (List (NodeRef κ))) : Prop :=
  ∃ nodes, access = .ok nodes ∧ nodes.map NodeRef.id = listed ∧
    ∀ node ∈ nodes, tree.get? node.id = some node.data

/-- The access gives the node, if there is one, with what it has. -/
def GivesOptional (tree : Tree κ) (found : Option NodeId)
    (access : Access (Option (NodeRef κ))) : Prop :=
  ∃ node, access = .ok node ∧ node.map NodeRef.id = found ∧
    ∀ given ∈ node, tree.get? given.id = some given.data

theorem ref_of_get? {id : NodeId} {data : Node κ} (h : tree.get? id = some data) :
    tree.ref id = .ok ⟨id, data⟩ := by
  rw [ref, h]

theorem exists_ref {id : NodeId} (h : tree.contains id = true) :
    ∃ data, tree.get? id = some data ∧ tree.ref id = .ok ⟨id, data⟩ := by
  obtain ⟨data, hdata⟩ := Option.isSome_iff_exists.mp h
  exact ⟨data, hdata, ref_of_get? hdata⟩

theorem givesAt_refAt (h : ∀ id ∈ listed, tree.contains id = true) (index : Index) :
    tree.GivesAt listed index (tree.refAt listed index) where
  inside place hplace hindex := by
    obtain ⟨data, hdata, href⟩ := exists_ref (h listed[place] (List.getElem_mem hplace))
    refine ⟨⟨listed[place], data⟩, ?_, rfl, hdata⟩
    rw [refAt, index.resolve_eq, hindex, Position.resolve_natCast hplace]
    simp only [List.getElem?_eq_getElem hplace, href]
  outside houtside := by
    rw [refAt, index.resolve_eq, Position.resolve_outside houtside]

/-- The reference is to the element of the list that the integer picks. -/
theorem refAt_eq (tree : Tree κ) (listed : List NodeId) (index : Index) :
    tree.refAt listed index =
      match Position.pick listed index.toInt with
      | .error error => .error (.failed error)
      | .ok id => tree.ref id := by
  unfold refAt Position.pick
  rw [index.resolve_eq]
  by_cases hinside : 0 ≤ index.toInt ∧ index.toInt < listed.length
  · obtain ⟨place, hplace⟩ := Int.eq_ofNat_of_zero_le hinside.1
    have hlt : place < listed.length := by omega
    rw [hplace, Position.resolve_natCast hlt]
    simp only [List.getElem?_eq_getElem hlt]
  · rw [Position.resolve_outside hinside]

theorem givesAll_mapM (h : ∀ id ∈ listed, tree.contains id = true) :
    tree.GivesAll listed (listed.mapM tree.ref) := by
  induction listed with
  | nil => exact ⟨[], rfl, rfl, by simp⟩
  | cons id listed ih =>
      obtain ⟨hid, hlisted⟩ := List.forall_mem_cons.mp h
      obtain ⟨data, hdata, href⟩ := exists_ref hid
      obtain ⟨nodes, hnodes, hids, hshown⟩ := ih hlisted
      refine ⟨⟨id, data⟩ :: nodes, ?_, by simp [hids], ?_⟩
      · rw [List.mapM_cons, href, hnodes]
        rfl
      · exact List.forall_mem_cons.mpr ⟨hdata, hshown⟩

theorem givesOptional_mapM {found : Option NodeId}
    (h : ∀ id, found = some id → tree.contains id = true) :
    tree.GivesOptional found (found.mapM tree.ref) := by
  cases found with
  | none => exact ⟨none, rfl, rfl, by simp⟩
  | some id =>
      obtain ⟨data, hdata, href⟩ := exists_ref (h id rfl)
      refine ⟨some ⟨id, data⟩, ?_, rfl, by simp [hdata]⟩
      rw [Option.mapM_some, href]
      rfl

/-- Visiting the listed nodes is visiting the references to them. -/
theorem foldlM_ref {σ : Type} (visit : σ → NodeRef κ → σ) (state : σ) {nodes : List (NodeRef κ)}
    (h : ∀ node ∈ nodes, tree.get? node.id = some node.data) :
    (nodes.map NodeRef.id).foldlM (fun state id => do return visit state (← tree.ref id)) state =
      (.ok (nodes.foldl visit state) : Access σ) := by
  induction nodes generalizing state with
  | nil => rfl
  | cons node nodes ih =>
      obtain ⟨hnode, hnodes⟩ := List.forall_mem_cons.mp h
      rw [List.map_cons, List.foldlM_cons, ref_of_get? hnode]
      exact ih (visit state node) hnodes

/-- Going through the listed nodes finds the first one with the title. -/
theorem firstTitled_eq (h : ∀ id ∈ listed, tree.contains id = true) (title : String) :
    tree.firstTitled title listed =
      (listed.find? fun id => tree.textOf id = title).mapM tree.ref := by
  induction listed with
  | nil => rfl
  | cons id listed ih =>
      obtain ⟨hid, hlisted⟩ := List.forall_mem_cons.mp h
      obtain ⟨data, hdata, href⟩ := exists_ref hid
      have htext : tree.textOf id = data.text := by rw [textOf, hdata]
      rw [firstTitled, href, List.find?_cons, htext]
      by_cases htitle : data.text = title
      · simp only [htitle, decide_true, Option.mapM_some, href]
        exact if_pos htitle
      · simp only [htitle, decide_false, ← ih hlisted]
        exact if_neg htitle

/-! ## Accessors -/

/-- Every accessor gives what it is asked for or says that there is nothing at the index. -/
structure Accessible (tree : Tree κ) : Prop where
  screenRef : ∀ index, tree.GivesAt tree.screens index (tree.screenRef index)
  widgetRef : ∀ parent index,
    tree.GivesAt (tree.childrenOf parent) index (tree.widgetRef parent index)
  screenRefs : tree.GivesAll tree.screens tree.screenRefs
  widgetRefs : ∀ parent, tree.GivesAll (tree.childrenOf parent) (tree.widgetRefs parent)
  eachScreen : ∀ {σ : Type} (visit : σ → NodeRef κ → σ) (state : σ), ∃ nodes,
    tree.screenRefs = .ok nodes ∧ tree.eachScreen visit state = .ok (nodes.foldl visit state)
  lastScreenRef : tree.GivesOptional tree.screens.getLast? tree.lastScreenRef
  screenRefOf : ∀ id, tree.GivesOptional (tree.asScreen? id) (tree.screenRefOf id)
  screenRefTitled : ∀ title,
    tree.GivesOptional (tree.screenWithTitle? title) (tree.screenRefTitled title)

theorem asScreen?_eq_some {id screen : NodeId} (h : tree.asScreen? id = some screen) :
    screen = id ∧ tree.contains id = true := by
  unfold asScreen? at h
  split at h
  · cases h
  · next data hdata =>
      split at h
      · cases h
        exact ⟨rfl, Registry.contains_of_get? hdata⟩
      · cases h

namespace Sound

/-- No accessor makes a reference to a node that is not in the tree. -/
theorem givesReferences (h : tree.Sound) : tree.Accessible where
  screenRef index := givesAt_refAt (fun _ hid => h.contains_screen hid) index
  widgetRef parent index := givesAt_refAt (fun _ hid => h.contains_child hid) index
  screenRefs := givesAll_mapM fun _ hid => h.contains_screen hid
  widgetRefs parent := givesAll_mapM fun _ hid => h.contains_child hid
  eachScreen visit state := by
    have hscreens : tree.GivesAll tree.screens tree.screenRefs :=
      givesAll_mapM fun _ hid => h.contains_screen hid
    obtain ⟨nodes, hnodes, hids, hshown⟩ := hscreens
    refine ⟨nodes, hnodes, ?_⟩
    rw [eachScreen, ← hids]
    exact foldlM_ref visit state hshown
  lastScreenRef := givesOptional_mapM fun _ hid => h.contains_screen (List.mem_of_getLast? hid)
  screenRefOf id := by
    apply givesOptional_mapM
    intro screen hscreen
    obtain ⟨rfl, hlive⟩ := asScreen?_eq_some hscreen
    exact hlive
  screenRefTitled title := by
    rw [screenRefTitled, firstTitled_eq fun _ hid => h.contains_screen hid]
    exact givesOptional_mapM fun _ hid => h.contains_screen (List.mem_of_find?_eq_some hid)

end Sound

end Tree

end Storyboard
