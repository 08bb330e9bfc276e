import Storyboard.Code.Grammar.Reader
import Storyboard.Code.Operator

/-!
# Forms

The forms that refer to each other in circles: expressions hold types, types hold expressions, and
patterns hold both.  Each rule is a reader that is given the readers of all forms, so the rules can
be stated one by one; the circle is closed in one place.
-/

namespace Storyboard.Code

/-- What is known of something that has been read. -/
inductive Shape where
  | plain
  | range
  | comparison
  /-- An expression that ends with its curly brackets when it is a statement. -/
  | block
  /-- An expansion called on curly brackets. -/
  | bracedExpansion
  /-- A type that is a single name. -/
  | nameType
  /-- A type that is a path, or a single bound that types may meet. -/
  | boundType
  /-- A type in round brackets. -/
  | closedType
  deriving DecidableEq, Repr

/-- The forms that refer to each other. -/
inductive Form where
  /-- An expression.  In some places a name and curly brackets may make one, in others the brackets
  are a block behind it. -/
  | expression (withFields : Bool)
  /-- An operand with what stands before and behind it. -/
  | operand (withFields : Bool)
  /-- The operators behind an operand that bind at least so tightly. -/
  | operation (left : Shape) (withFields : Bool) (base : Precedence)
  /-- An expression that ends where a statement does. -/
  | statementExpression
  | statements
  | pattern
  | alternatives
  /-- A type, possibly with further bounds behind plus signs. -/
  | type (withBounds : Bool)
  /-- A bound that types may meet.  In some places it can be a list of labels that are captured, in
  some it can be asked of constants. -/
  | bound (withCapture withConstant : Bool)
  deriving DecidableEq, Repr

/-- Readers for all forms. -/
abbrev Forms := Form → Reader Shape

namespace Forms

variable (forms : Forms)

def expression : Reader Unit := do let _ ← forms (.expression true)

def condition : Reader Unit := do let _ ← forms (.expression false)

def statements : Reader Unit := do let _ ← forms .statements

def pattern : Reader Unit := do let _ ← forms .pattern

def alternatives : Reader Unit := do let _ ← forms .alternatives

/-- Reads a type, possibly with further bounds. -/
def type : Reader Unit := do let _ ← forms (.type true)

/-- Reads a type without further bounds. -/
def narrowType : Reader Shape := forms (.type false)

/-- Reads a bound of the simplest kind. -/
def bound : Reader Unit := do let _ ← forms (.bound false false)

/-- Reads a block of statements in curly brackets. -/
def block : Reader Unit := Reader.within .curly forms.statements

/-- Reads expressions in round brackets with commas between them. -/
def arguments : Reader Unit := Reader.within .round (Reader.entries forms.expression)

end Forms

end Storyboard.Code
