import Storyboard.Code.Refusal

/-!
# Faults of style sheets

What can be wrong with a style sheet that is written as code, with the wording.
-/

namespace Storyboard.Sheet

/-- What is wrong with a style sheet. -/
inductive Fault where
  | digitsExpected (atEnd : Bool)
  /-- What follows a hash are not hexadecimal digits. -/
  | notHexadecimal (digits : String) (atEnd : Bool)
  | unexpectedToken
  /-- An exclamation mark is followed by another word than the one that it can have. -/
  | importantExpected
  | noValue (property : String)
  | noDeclarations
  | declaredAgain (property : String)
  deriving DecidableEq, Repr

def Fault.message : Fault → String
  | .digitsExpected atEnd => Code.atPlace atEnd "expected hex color value after `#`"
  | .notHexadecimal digits atEnd => Code.atPlace atEnd ("`#" ++ digits ++ "` is not a hex color")
  | .unexpectedToken => "unexpected token in style value"
  | .importantExpected => "expected `important` after `!`"
  | .noValue property => "property `" ++ property ++ "` has no value"
  | .noDeclarations => "style! macro requires at least one declaration"
  | .declaredAgain property => "property `" ++ property ++ "` is declared more than once"

/-- Why code is refused as a style sheet or as a part of one. -/
abbrev Refusal := Code.Refusal Fault

end Storyboard.Sheet
