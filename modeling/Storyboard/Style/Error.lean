import Storyboard.Text.Inspect

/-!
# Faults in style text

Why a text is not a list of declarations, and the wording of each fault.
-/

namespace Storyboard

/-- Why a token cannot stand where it stands. -/
inductive Misplaced where
  /-- A declaration begins with a name, and this is none. -/
  | nameExpected (found : String)
  /-- A name is followed by a colon, and this is none. -/
  | colonExpected (property found : String)
  /-- A colon stands inside the value of a property. -/
  | colonInValue (property : String)
  deriving DecidableEq

/-- Why a text is not a list of declarations. -/
inductive StyleError where
  | invalidCharacter (position : Nat) (found : String)
  /-- The token at the position cannot stand there. -/
  | misplacedToken (position : Nat) (cause : Misplaced)
  /-- The text ends right after the name of a property. -/
  | endAfterName (property : String)
  | emptyValue (property : String)
  deriving DecidableEq

def Misplaced.message : Misplaced → String
  | .nameExpected found => "expected property name, found `" ++ found ++ "`"
  | .colonExpected property found =>
      "expected `:` after `" ++ property ++ "`, found `" ++ found ++ "`"
  | .colonInValue property => "unexpected `:` in value of `" ++ property ++ "`"

namespace StyleError

/-- What was expected where a text ends after the name of a property. -/
def expectedAfterName (property : String) : String :=
  "`:` after `" ++ property ++ "`"

def message : StyleError → String
  | .invalidCharacter position found =>
      "invalid character `" ++ found ++ "` at position " ++ toString position
  | .misplacedToken position cause =>
      "unexpected token at position " ++ toString position ++ ": " ++ cause.message
  | .endAfterName property => "unexpected end of input: expected " ++ expectedAfterName property
  | .emptyValue property => "property `" ++ property ++ "` has no value"

def inspect : StyleError → Text.Inspect
  | .invalidCharacter position found =>
      .record "InvalidCharacter" [("position", .word (toString position)), ("found", .text found)]
        false
  | .misplacedToken position cause =>
      .record "UnexpectedToken"
        [("position", .word (toString position)), ("message", .text cause.message)] false
  | .endAfterName property => .applied "UnexpectedEnd" [.text (expectedAfterName property)]
  | .emptyValue property => .applied "EmptyValue" [.text property]

end StyleError

end Storyboard
