import Storyboard.Tree.Access

/-!
# References

A node is read through a reference to it, which holds what the node has.  Whoever makes one takes it
for granted that the node is in the tree: if it is not, the program stops.  The accessors make
references from nodes that the tree has just handed out, by an index of any of the integer types, by
title, or one after the other.
-/

namespace Storyboard

/-! ## Indices -/

/-- How wide an integer is.  A word is as wide as an address. -/
inductive IndexWidth where
  | byte
  | short
  | int
  | long
  | word
  deriving DecidableEq

def IndexWidth.bits : IndexWidth → Nat
  | .byte => 8
  | .short => 16
  | .int => 32
  | .long => 64
  | .word => 64

/-- An integer of one of the types by which positions are given. -/
structure Index where
  width : IndexWidth
  isSigned : Bool
  bits : BitVec width.bits

namespace Index

/-- The integer that the bits stand for. -/
def toInt (index : Index) : Int :=
  if index.isSigned then index.bits.toInt else index.bits.toNat

/-- The same integer as an address, unless it is negative. -/
def address? (index : Index) : Option (BitVec 64) :=
  if index.isSigned && index.bits.msb then none else some (index.bits.setWidth 64)

/-- The integer as it is reported. -/
def widened (index : Index) : BitVec 128 :=
  if index.isSigned then index.bits.signExtend 128 else index.bits.setWidth 128

/-- The place that an index names in a list of the given length. -/
def resolve (index : Index) (length : Nat) : Except Error Nat :=
  match index.address?.filter fun address => address.toNat < length with
  | some address => .ok address.toNat
  | none => .error (.indexOutOfRange index.widened.toInt length)

end Index

/-! ## Making references -/

/-- A node as it is read. -/
structure NodeRef (κ : Type) where
  id : NodeId
  data : Node κ

/-- How an access ends that gives nothing. -/
inductive Lapse where
  | failed (error : Error)
  /-- The program stops: the list has no such place. -/
  | overrun (place : Nat)
  /-- The program stops: the node is not in the tree. -/
  | dangling (id : NodeId)

/-- What an accessor gives. -/
abbrev Access := Except Lapse

namespace Tree

variable {κ : Type}

/-- The reference to a node that has just been handed out. -/
def ref (tree : Tree κ) (id : NodeId) : Access (NodeRef κ) :=
  match tree.get? id with
  | none => .error (.dangling id)
  | some data => .ok ⟨id, data⟩

/-- The node of a list at an index. -/
def refAt (tree : Tree κ) (listed : List NodeId) (index : Index) : Access (NodeRef κ) :=
  match index.resolve listed.length with
  | .error error => .error (.failed error)
  | .ok place =>
      match listed[place]? with
      | none => .error (.overrun place)
      | some id => tree.ref id

/-! ## Accessors -/

def screenRef (tree : Tree κ) (index : Index) : Access (NodeRef κ) :=
  tree.refAt tree.screens index

def widgetRef (tree : Tree κ) (parent : NodeId) (index : Index) : Access (NodeRef κ) :=
  tree.refAt (tree.childrenOf parent) index

/-- Every screen in order. -/
def screenRefs (tree : Tree κ) : Access (List (NodeRef κ)) :=
  tree.screens.mapM tree.ref

/-- Visits one screen after the other. -/
def eachScreen {σ : Type} (tree : Tree κ) (visit : σ → NodeRef κ → σ) (state : σ) : Access σ :=
  tree.screens.foldlM (fun state id => do return visit state (← tree.ref id)) state

def lastScreenRef (tree : Tree κ) : Access (Option (NodeRef κ)) :=
  tree.lastScreen?.mapM tree.ref

/-- The node itself, if it is in the tree and a screen. -/
def screenRefOf (tree : Tree κ) (id : NodeId) : Access (Option (NodeRef κ)) :=
  (tree.asScreen? id).mapM tree.ref

/-- The first of the listed nodes that has the given title. -/
def firstTitled (tree : Tree κ) (title : String) : List NodeId → Access (Option (NodeRef κ))
  | [] => .ok none
  | id :: rest => do
      let node ← tree.ref id
      if node.data.text = title then return some node else tree.firstTitled title rest

def screenRefTitled (tree : Tree κ) (title : String) : Access (Option (NodeRef κ)) :=
  tree.firstTitled title tree.screens

/-- Every child of a node in order. -/
def widgetRefs (tree : Tree κ) (parent : NodeId) : Access (List (NodeRef κ)) :=
  (tree.childrenOf parent).mapM tree.ref

end Tree

end Storyboard
