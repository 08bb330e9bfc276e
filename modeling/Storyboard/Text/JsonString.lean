/-!
# Strings in JSON

The form in which a text stands in an event line: between double quotes, with escapes for the quote,
the backslash and the control characters below the space, and every other character as it is.
-/

namespace Storyboard.Text

/-- The last two digits of a four-digit escape for a character below the space. -/
def controlDigits (c : Char) : List Char :=
  [Nat.digitChar (c.toNat / 16), Nat.digitChar (c.toNat % 16)]

/-- One character as it is written inside a JSON string. -/
def jsonChar (c : Char) : List Char :=
  match c with
  | '"' => ['\\', '"']
  | '\\' => ['\\', '\\']
  | '\n' => ['\\', 'n']
  | '\r' => ['\\', 'r']
  | '\t' => ['\\', 't']
  | '\x08' => ['\\', 'b']
  | '\x0c' => ['\\', 'f']
  | other => if other < ' ' then ['\\', 'u', '0', '0'] ++ controlDigits other else [other]

/-- A text as a JSON string. -/
def jsonString (text : String) : String :=
  String.ofList ('"' :: (text.toList.flatMap jsonChar ++ ['"']))

/-- An optional text as a JSON value: the string, or `null`. -/
def jsonOptional : Option String → String
  | none => "null"
  | some text => jsonString text

end Storyboard.Text
