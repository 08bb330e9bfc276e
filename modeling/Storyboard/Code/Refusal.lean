import Storyboard.Code.Lexeme

/-!
# Refusals

Why a text is refused where code of some form is asked for.  Most forms have faults of their own
with a wording; what else is wrong is only said to be malformed.
-/

namespace Storyboard.Code

/-- Why a text is refused.  The type `ε` is that of the faults that have a wording. -/
inductive Refusal (ε : Type) where
  /-- The text cannot be cut into lexemes, or a bracket has no partner. -/
  | unreadable
  | malformed
  /-- The code has a fault that has a wording. -/
  | fault (cause : ε)
  deriving DecidableEq, Repr

/-- A wording for what is missing at a place, which says so if the place is an end. -/
def atPlace (atEnd : Bool) (message : String) : String :=
  if atEnd then "unexpected end of input, " ++ message else message

/-- Reads a text as code of a form. -/
def readAs {ε α : Type} (read : Code → Except (Refusal ε) α) (input : String) :
    Except (Refusal ε) α :=
  match read? input with
  | none => .error .unreadable
  | some code => read code

end Storyboard.Code
