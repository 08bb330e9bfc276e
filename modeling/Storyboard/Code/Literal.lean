import Storyboard.Text.Hexadecimal
import Storyboard.Text.NameContinue
import Storyboard.Text.NameStart

/-!
# Literals of code

How far a word, a number, a text or a character literal reaches at the beginning of a list of
characters, and what a text literal contains.  Every literal may carry a suffix, a word that follows
it directly; the suffix of a number is its unit.
-/

namespace Storyboard.Code

open Storyboard.Text

/-! ## Words -/

/-- Whether a word may begin with the character. -/
def isWordStart (c : Char) : Bool := c == '_' || nameStart.contains c

/-- Whether a word may go on with the character. -/
def isWordRest (c : Char) : Bool := nameContinue.contains c

/-- The length of the word at the beginning, none if there is none. -/
def wordLength : List Char → Nat
  | [] => 0
  | c :: rest => if isWordStart c then (rest.takeWhile isWordRest).length + 1 else 0

/-- Whether a word begins here. -/
def startsWord (input : List Char) : Bool :=
  match input with
  | [] => false
  | c :: _ => isWordStart c

/-! ## Kinds of quoted literals -/

/-- What a quoted literal holds. -/
inductive Content where
  | characters
  /-- Bytes, of which the ASCII characters are written as such. -/
  | bytes
  /-- Characters and bytes other than zero. -/
  | nonzero
  deriving DecidableEq, Repr

/-- Whether a character may stand for itself in a literal. -/
def Content.admits : Content → Char → Bool
  | characters, _ => true
  | bytes, c => decide (c.toNat < 128)
  | nonzero, c => c != '\x00'

/-- Whether a byte may be given by its hexadecimal digits. -/
def Content.admitsByte : Content → Nat → Bool
  | characters, value => decide (value < 128)
  | bytes, _ => true
  | nonzero, value => value != 0

/-- Whether a code point may be given by its hexadecimal digits. -/
def Content.admitsCodePoint : Content → Nat → Bool
  | characters, _ => true
  | bytes, _ => false
  | nonzero, value => value != 0

/-! ## Escapes -/

/-- The character that an escape after a backslash stands for, and the length of the escape. -/
def escape? (content : Content) : List Char → Option (Char × Nat)
  | 'n' :: _ => some ('\n', 1)
  | 'r' :: _ => some ('\r', 1)
  | 't' :: _ => some ('\t', 1)
  | '0' :: _ => if content = .nonzero then none else some ('\x00', 1)
  | '\\' :: _ => some ('\\', 1)
  | '\'' :: _ => some ('\'', 1)
  | '"' :: _ => some ('"', 1)
  | 'x' :: high :: low :: _ =>
      let value := hexNumber [high, low]
      if isHexDigit high && isHexDigit low && content.admitsByte value then
        some (Char.ofNat value, 3)
      else none
  | 'u' :: '\x7b' :: rest =>
      let spelled := rest.takeWhile fun c => isHexDigit c || c == '_'
      let digits := spelled.filter (· != '_')
      let value := hexNumber digits
      if (spelled.head?.any isHexDigit) && digits.length ≤ 6 && decide value.isValidChar
          && (rest.drop spelled.length).head? == some '\x7d' && content.admitsCodePoint value then
        some (Char.ofNat value, spelled.length + 3)
      else none
  | _ => none

/-! ## Texts -/

/-- The number of blanks that a backslash at the end of a line swallows. -/
def layoutLength : List Char → Nat
  | ' ' :: rest | '\t' :: rest | '\n' :: rest => layoutLength rest + 1
  | '\r' :: '\n' :: rest => layoutLength rest + 2
  | _ => 0

/-- Puts characters before the contents of a text and makes the text longer. -/
def extendText (more : List Char) (length : Nat) (text : List Char × Nat) : List Char × Nat :=
  (more ++ text.1, text.2 + length)

/-- The contents and the length of a text literal whose opening quote has been read.  A line may end
in a return and a newline, which count as a newline; a return alone is not allowed. -/
def textFrom? (content : Content) : List Char → Option (List Char × Nat)
  | [] => none
  | '"' :: rest => some ([], wordLength rest + 1)
  | '\r' :: '\n' :: rest => (textFrom? content rest).map (extendText ['\n'] 2)
  | '\r' :: _ => none
  | '\\' :: '\n' :: rest =>
      let blanks := layoutLength rest
      (textFrom? content (rest.drop blanks)).map (extendText [] (blanks + 2))
  | '\\' :: '\r' :: '\n' :: rest =>
      let blanks := layoutLength rest
      (textFrom? content (rest.drop blanks)).map (extendText [] (blanks + 3))
  | '\\' :: rest =>
      match escape? content rest with
      | none => none
      | some (c, length) =>
          (textFrom? content (rest.drop length)).map (extendText [c] (length + 1))
  | c :: rest =>
      if content.admits c then (textFrom? content rest).map (extendText [c] 1) else none
termination_by input => input.length
decreasing_by
  all_goals
    simp only [List.length_cons, List.length_drop]
    omega

/-- The contents and the length of a raw text literal whose opening quote has been read.  It ends at
a quote that is followed by as many hashes as preceded the opening one. -/
def rawTextFrom? (content : Content) (hashes : Nat) : List Char → Option (List Char × Nat)
  | [] => none
  | '"' :: rest =>
      if rest.take hashes = List.replicate hashes '#' then
        some ([], hashes + wordLength (rest.drop hashes) + 1)
      else (rawTextFrom? content hashes rest).map (extendText ['"'] 1)
  | '\r' :: '\n' :: rest =>
      (rawTextFrom? content hashes rest).map (extendText ['\r', '\n'] 2)
  | '\r' :: _ => none
  | c :: rest =>
      if content.admits c then (rawTextFrom? content hashes rest).map (extendText [c] 1) else none

/-- The contents and the length of a raw text literal whose first letter has been read. -/
def rawText? (content : Content) (input : List Char) : Option (List Char × Nat) :=
  let hashes := (input.takeWhile (· == '#')).length
  match input.drop hashes with
  | '"' :: rest =>
      if hashes ≤ 255 then
        (rawTextFrom? content hashes rest).map (extendText [] (hashes + 1))
      else none
  | _ => none

/-- The length of a literal for one character or byte whose opening quote has been read. -/
def characterLength? (content : Content) : List Char → Option Nat
  | [] => none
  | '\\' :: rest =>
      match escape? content rest with
      | none => none
      | some (_, length) =>
          match rest.drop length with
          | '\'' :: behind => some (length + wordLength behind + 2)
          | _ => none
  | c :: '\'' :: behind => if content.admits c then some (wordLength behind + 2) else none
  | _ => none

/-- The length of the literal at the beginning whose mark says that it holds bytes. -/
def markedLength? : List Char → Option Nat
  | 'b' :: '"' :: rest => (textFrom? .bytes rest).map fun text => text.2 + 2
  | 'b' :: 'r' :: rest => (rawText? .bytes rest).map fun text => text.2 + 2
  | 'c' :: '"' :: rest => (textFrom? .nonzero rest).map fun text => text.2 + 2
  | 'c' :: 'r' :: rest => (rawText? .nonzero rest).map fun text => text.2 + 2
  | 'b' :: '\'' :: rest => (characterLength? .bytes rest).map (· + 2)
  | _ => none

/-! ## Numbers -/

/-- Whether the character is a decimal digit or the gap between two. -/
def isDigitOrGap (c : Char) : Bool := c.isDigit || c == '_'

/-- The length of the exponent behind its letter: a possible sign and digits. -/
def exponentLength? (input : List Char) : Option Nat :=
  let gaps := (input.takeWhile (· == '_')).length
  let signed := input.drop gaps
  let sign :=
    match signed with
    | '+' :: _ | '-' :: _ => 1
    | _ => 0
  let digits := (signed.drop sign).takeWhile isDigitOrGap
  if digits.any Char.isDigit then some (gaps + sign + digits.length) else none

/-- The length of the number with a point or an exponent at the beginning.  A point that is followed
by a second one or by a word belongs to neither. -/
def decimalLength? (input : List Char) : Option Nat :=
  let whole := (input.takeWhile isDigitOrGap).length
  match input.drop whole with
  | '.' :: rest =>
      if startsWord rest || rest.head? == some '.' then none
      else
        let fraction := (rest.takeWhile isDigitOrGap).length
        match rest.drop fraction with
        | 'e' :: power | 'E' :: power =>
            some (whole + fraction + 1 + ((exponentLength? power).map (· + 1)).getD 0)
        | _ => some (whole + fraction + 1)
  | 'e' :: power | 'E' :: power => (exponentLength? power).map (whole + 1 + ·)
  | _ => none

def digitsLength? (base : Nat) (input : List Char) : Option Nat :=
  let digits := input.takeWhile fun c => isDigitOrGap c || (base == 16 && isHexDigit c)
  if digits.any (· != '_') && digits.all (fun c => c == '_' || hexValue c < base) then
    some digits.length
  else none

/-- The length of the whole number at the beginning, without its unit. -/
def wholeLength? (input : List Char) : Option Nat :=
  match input with
  | '0' :: 'x' :: rest => (digitsLength? 16 rest).map (· + 2)
  | '0' :: 'o' :: rest => (digitsLength? 8 rest).map (· + 2)
  | '0' :: 'b' :: rest => (digitsLength? 2 rest).map (· + 2)
  | rest => digitsLength? 10 rest

/-- The length of a number with its unit, given that without.  Nothing may follow that could still
be part of a word. -/
def withUnit? (input : List Char) (length : Nat) : Option Nat :=
  let all := length + wordLength (input.drop length)
  if (input.drop all).head?.any isWordRest then none else some all

def numberLength? (input : List Char) : Option Nat :=
  if input.head?.any Char.isDigit then
    match (decimalLength? input).bind (withUnit? input) with
    | some length => some length
    | none => (wholeLength? input).bind (withUnit? input)
  else none

end Storyboard.Code
