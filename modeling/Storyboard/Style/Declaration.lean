import Storyboard.Style.Basic
import Storyboard.Style.Token

/-!
# Declaration lists

A declaration is a name, a colon and at least one value token; it ends at a semicolon or at the end
of the text.  Values are kept as text: their tokens joined by single spaces, except around
parentheses and before commas.  Stray semicolons are skipped, and a later declaration of a property
replaces an earlier one.
-/

namespace Storyboard.Style

/-- Whether a space separates a value token from the one before it. -/
def needsSpace (last : Option TokenKind) (next : TokenKind) : Bool :=
  match last, next with
  | none, _ => false
  | some .openingParenthesis, _ => false
  | _, .comma => false
  | _, .closingParenthesis => false
  | _, .openingParenthesis => false
  | _, _ => true

/-- Where the reading of a declaration list stands between two tokens. -/
inductive Reading where
  | ready
  | named (property : String)
  /-- Inside a value: its text so far and the kind of its last token. -/
  | within (property : String) (value : String) (last : Option TokenKind)
  deriving DecidableEq

/-- The style that results when the tokens are read from a stage on, with the declarations of
`style` already made. -/
def readTokens : Reading → Style → List Token → Except StyleError Style
  | .ready, style, [] => .ok style
  | .named property, _, [] => .error (.endAfterName property)
  | .within property _ none, _, [] => .error (.emptyValue property)
  | .within property value (some _), style, [] => .ok (style.set property value)
  | .ready, style, token :: rest =>
      match token.kind with
      | .semicolon => readTokens .ready style rest
      | .identifier => readTokens (.named token.text) style rest
      | _ => .error (.misplacedToken token.position (.nameExpected token.text))
  | .named property, style, token :: rest =>
      match token.kind with
      | .colon => readTokens (.within property "" none) style rest
      | _ => .error (.misplacedToken token.position (.colonExpected property token.text))
  | .within property value last, style, token :: rest =>
      match token.kind, last with
      | .colon, _ => .error (.misplacedToken token.position (.colonInValue property))
      | .semicolon, none => .error (.emptyValue property)
      | .semicolon, some _ => readTokens .ready (style.set property value) rest
      | kind, last =>
          let space := if needsSpace last kind then " " else ""
          readTokens (.within property (value ++ space ++ token.text) (some kind)) style rest

/-- The style that a declaration list describes. -/
def parse (input : String) : Except StyleError Style :=
  match tokenize input with
  | .error fault => .error fault
  | .ok tokens => readTokens .ready empty tokens

/-- What reading a style's own written form gives: whether it is the same style again. -/
def readsBack (style : Style) : Except StyleError Bool :=
  match parse style.render with
  | .error fault => .error fault
  | .ok again => .ok (decide (again = style))

def inspect (style : Style) : Text.Inspect :=
  .record "Style" [("properties", .pairs style.entries)] false

end Storyboard.Style
