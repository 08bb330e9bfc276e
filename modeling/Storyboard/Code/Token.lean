/-!
# Tokens of code

Code is made of words, single signs, literals and brackets.  A word that is not reserved is a name.
Blanks do not count in code but for one thing: several signs make an operator only if they stand
directly behind each other, so every sign but the last has to be joined to the next.
-/

namespace Storyboard.Code

/-- The kinds of brackets. -/
inductive Bracket where
  | round
  | square
  | curly
  deriving DecidableEq, Repr

/-- A piece of code that is not a bracket. -/
inductive Token where
  | word (spelling : String)
  /-- A single punctuation character, and whether another one stands directly behind it. -/
  | sign (c : Char) (isJoined : Bool)
  /-- A number as it is spelled, with its unit. -/
  | number (spelling : String)
  /-- A text, by its contents. -/
  | text (contents : String)
  | literal (spelling : String)
  deriving DecidableEq, Repr

/-- What a text of code is cut into. -/
inductive Lexeme where
  | token (token : Token)
  | opening (bracket : Bracket)
  | closing (bracket : Bracket)
  deriving DecidableEq, Repr

/-- The words that cannot be names. -/
def reservedWords : List String :=
  ["_", "abstract", "as", "async", "await", "become", "box", "break", "const", "continue", "crate",
    "do", "dyn", "else", "enum", "extern", "false", "final", "fn", "for", "if", "impl", "in", "let",
    "loop", "macro", "match", "mod", "move", "mut", "override", "priv", "pub", "ref", "return",
    "Self", "self", "static", "struct", "super", "trait", "true", "try", "type", "typeof", "unsafe",
    "unsized", "use", "virtual", "where", "while", "yield"]

def isName (word : String) : Bool := !reservedWords.contains word

/-- The characters that are signs. -/
def isSign (c : Char) : Bool := "~!@#$%^&*-=+|;:,<.>/?".toList.contains c

namespace Bracket

def openingChar : Bracket → Char
  | .round => '('
  | .square => '['
  | .curly => '\x7b'

def closingChar : Bracket → Char
  | .round => ')'
  | .square => ']'
  | .curly => '\x7d'

def all : List Bracket := [.round, .square, .curly]

/-- The bracket that a character opens. -/
def ofOpening? (c : Char) : Option Bracket := all.find? (·.openingChar == c)

/-- The bracket that a character closes. -/
def ofClosing? (c : Char) : Option Bracket := all.find? (·.closingChar == c)

end Bracket

/-- The text that stands for a piece of code in a flat listing.  A text literal is listed by its
contents. -/
def Token.spelling : Token → String
  | .word spelling => spelling
  | .sign c _ => String.singleton c
  | .number spelling => spelling
  | .text contents => contents
  | .literal spelling => spelling

end Storyboard.Code
