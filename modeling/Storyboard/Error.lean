import Storyboard.Style.Error

/-!
# Errors

Every way in which declaring, reading or presenting a storyboard can fail, and the wording of each.
-/

namespace Storyboard

/-- What a handle without behaviour was asked for. -/
inductive Operation where
  | text
  | click
  deriving DecidableEq

def Operation.name : Operation → String
  | .text => "text"
  | .click => "click"

/-- Why a call failed. -/
inductive Error where
  /-- There is nothing at the position `index` of `length` places. -/
  | indexOutOfRange (index : Int) (length : Nat)
  | screenRequired (widget : String)
  /-- A widget was declared outside of every container although it needs one. -/
  | containerRequired (widget : String)
  /-- The node has no behaviour for the operation. -/
  | notImplemented (operation : Operation)
  /-- Nothing is installed that could present the storyboard. -/
  | presenterUnavailable
  | screenNotFound (description : String)
  | invalidArguments (reason : String)
  /-- The node is not in the tree, or no longer. -/
  | unknownNode
  /-- The text of a style cannot be read. -/
  | style (fault : StyleError)
  deriving DecidableEq

namespace Error

def message : Error → String
  | .indexOutOfRange _ _ => "Index out of range."
  | .screenRequired widget => "screen must be defined before " ++ widget ++ " can be added"
  | .containerRequired widget => "table must be defined before " ++ widget ++ " can be added"
  | .notImplemented operation => operation.name ++ " not implemented"
  | .presenterUnavailable => "no runtime configured"
  | .screenNotFound description => "no screen matches " ++ description
  | .invalidArguments reason => "invalid arguments: " ++ reason
  | .unknownNode => "node does not exist in this tree"
  | .style fault => fault.message

/-- Whether declarations came in the wrong order. -/
def isOrdering : Error → Bool
  | .screenRequired _ => true
  | .containerRequired _ => true
  | _ => false

end Error

end Storyboard
