/-!
# Sets of code points

A large set of characters is stored as the list of its boundaries: the code points at which
membership changes, in increasing order, starting from outside.  A code point belongs to the set
when an odd number of boundaries lie at or below it.
-/

namespace Storyboard.Text

/-- A set of code points, given by the increasing list of points where membership changes. -/
structure CodePoints where
  bounds : List Nat

namespace CodePoints

/-- Walks along the boundaries not above `point`, changing sides at each. -/
def sideAt (point : Nat) : Bool → List Nat → Bool
  | side, [] => side
  | side, bound :: rest => if point < bound then side else sideAt point (!side) rest

def contains (set : CodePoints) (c : Char) : Bool :=
  sideAt c.toNat false set.bounds

end CodePoints

end Storyboard.Text
