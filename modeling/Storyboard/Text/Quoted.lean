import Storyboard.Text.GraphemeExtend
import Storyboard.Text.Unprintable

/-!
# Quoted text

The written form of a text between double quotes.  A quote and a backslash are escaped, five control
characters have short names, and every other character that has no shape of its own, or that would
be drawn onto its neighbour, is given by its code point.  All else stands for itself, the apostrophe
included.
-/

namespace Storyboard.Text

/-- Whether the character would not be seen on its own between quotes. -/
def needsCodePoint (c : Char) : Bool :=
  graphemeExtend.contains c || unprintable.contains c

/-- The code point of a character in lower-case hexadecimal digits, with no leading zeros. -/
def hexDigits (c : Char) : List Char :=
  Nat.toDigits 16 c.toNat

/-- One character as it is written between quotes. -/
def quoteChar (c : Char) : List Char :=
  match c with
  | '"' => ['\\', '"']
  | '\\' => ['\\', '\\']
  | '\n' => ['\\', 'n']
  | '\r' => ['\\', 'r']
  | '\t' => ['\\', 't']
  | '\x00' => ['\\', '0']
  | other =>
      if needsCodePoint other then
        ['\\', 'u', '\x7b'] ++ hexDigits other ++ ['\x7d']
      else
        [other]

/-- The characters of a text in quotes. -/
def quoteChars (text : List Char) : List Char :=
  '"' :: (text.flatMap quoteChar ++ ['"'])

/-- A text in quotes. -/
def quoted (text : String) : String :=
  String.ofList (quoteChars text.toList)

end Storyboard.Text
