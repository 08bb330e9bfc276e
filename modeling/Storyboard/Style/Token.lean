import Storyboard.Style.Error
import Storyboard.Text.Hexadecimal
import Storyboard.Text.Measure
import Storyboard.Text.Pattern

/-!
# Tokens of style text

Style text is cut into tokens of twelve kinds.  At each place the longest token wins, whatever its
kind; blanks between tokens are skipped.  A character at which no token begins makes the whole text
invalid.
-/

namespace Storyboard.Style

open Storyboard.Text

/-- What a token is. -/
inductive TokenKind where
  | important
  /-- A hash and three to eight hexadecimal digits. -/
  | hexColor
  /-- A number with a percent sign or a unit of letters. -/
  | dimension
  | text
  | singleQuotedText
  /-- A decimal number, possibly negative. -/
  | number
  /-- The name of a property, or a word in a value. -/
  | identifier
  | openingParenthesis
  | closingParenthesis
  | colon
  | semicolon
  | comma
  deriving DecidableEq, Repr

/-- A token with its text and the byte position at which it begins. -/
structure Token where
  kind : TokenKind
  text : String
  position : Nat
  deriving DecidableEq, Repr

/-! ## Patterns of the kinds -/

/-- Whether the character is blank in style text. -/
def isBlank (c : Char) : Bool :=
  c == ' ' || c == '\t' || c == '\n' || c == '\r' || c == '\x0c'

/-- Whether an identifier may begin with the character. -/
def isIdentifierStart (c : Char) : Bool :=
  c.isAlpha || c == '_'

/-- Whether an identifier may go on with the character. -/
def isIdentifierRest (c : Char) : Bool :=
  c.isAlphanum || c == '_' || c == '-'

/-- An optional minus sign, digits, and possibly a point with more digits. -/
def numberPattern : Pattern :=
  .seq (.optional (.char '-'))
    (.seq (.some (.one Char.isDigit))
      (.optional (.seq (.char '.') (.some (.one Char.isDigit)))))

/-- A text without the quote `quote`, between two of them. -/
def quotedPattern (quote : Char) : Pattern :=
  .seq (.char quote) (.seq (.many (.one (· != quote))) (.char quote))

def TokenKind.pattern : TokenKind → Pattern
  | .important => .word "!important".toList
  | .hexColor => .seq (.char '#') (.between (.one isHexDigit) 5 3)
  | .dimension => .seq numberPattern (.either (.char '%') (.some (.one Char.isAlpha)))
  | .text => quotedPattern '"'
  | .singleQuotedText => quotedPattern '\''
  | .number => numberPattern
  | .identifier => .seq (.one isIdentifierStart) (.many (.one isIdentifierRest))
  | .openingParenthesis => .char '('
  | .closingParenthesis => .char ')'
  | .colon => .char ':'
  | .semicolon => .char ';'
  | .comma => .char ','

def TokenKind.all : List TokenKind :=
  [.important, .hexColor, .dimension, .text, .singleQuotedText, .number, .identifier,
    .openingParenthesis, .closingParenthesis, .colon, .semicolon, .comma]

/-! ## Cutting a text into tokens -/

/-- The longer of a candidate found so far and a further kind; the earlier one on a tie. -/
def betterCandidate (input : List Char) (best : Option (TokenKind × Nat)) (kind : TokenKind) :
    Option (TokenKind × Nat) :=
  match best, kind.pattern.longest? input with
  | best, none => best
  | none, some length => some (kind, length)
  | some (earlier, most), some length => if most < length then some (kind, length)
      else some (earlier, most)

/-- The kind and the length of the longest token at the beginning of a text. -/
def firstToken? (input : List Char) : Option (TokenKind × Nat) :=
  TokenKind.all.foldl (betterCandidate input) none

/-- What is reported where no token begins: the character there, or, since a quote that opens no
token is never closed, the quote with everything after it. -/
def invalidPart (c : Char) (rest : List Char) : String :=
  if c == '"' || c == '\'' then String.ofList (c :: rest) else String.ofList [c]

/-- The tokens of a text that begins at a byte position. -/
def tokensFrom (position : Nat) : List Char → Except StyleError (List Token)
  | [] => .ok []
  | c :: rest =>
      if isBlank c then tokensFrom (position + c.utf8Size) rest
      else
        match firstToken? (c :: rest) with
        | none | some (_, 0) => .error (.invalidCharacter position (invalidPart c rest))
        | some (kind, length + 1) =>
            let text := c :: rest.take length
            match tokensFrom (position + byteLength text) (rest.drop length) with
            | .error fault => .error fault
            | .ok tokens => .ok (⟨kind, String.ofList text, position⟩ :: tokens)
termination_by input => input.length
decreasing_by
  all_goals
    simp only [List.length_cons, List.length_drop]
    omega

/-- The tokens of a text, or the first place at which none begins. -/
def tokenize (input : String) : Except StyleError (List Token) :=
  tokensFrom 0 input.toList

end Storyboard.Style
