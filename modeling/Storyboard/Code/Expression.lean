import Storyboard.Code.Basic

/-!
# Expressions

Code that is to be an expression is not interpreted: it is only found where the expression ends and
which code it keeps.  What counts as an expression is not a matter of what expressions are used for,
so whatever reads expressions is given a reader for them.
-/

namespace Storyboard.Code

/-- An expression with the code behind it. -/
structure Expression where
  /-- The code that the expression keeps of what it has been found in. -/
  code : Code
  /-- Whether nothing has been left over in its brackets. -/
  isWhole : Bool
  behind : Code
  deriving DecidableEq, Repr

/-- Finds the longest expression at the beginning of code, if one begins there. -/
abbrev ExpressionReader := Code → Option Expression

end Storyboard.Code
