import Storyboard.Code.Basic
import Storyboard.Text.Hexadecimal

/-!
# Numbered fields

A field that has no name has a number.  Several such fields, one inside the other, are written with
points between their numbers, and two of them look like a number with a point.  Whatever the base
and the spelling, the code of a field holds its number in decimal digits.
-/

namespace Storyboard.Code

open Storyboard.Text

/-- The value of digits to a base, between which there may be gaps. -/
def digitsValue? (base : Nat) (spelled : List Char) : Option Nat :=
  let digits := spelled.filter (· != '_')
  if !digits.isEmpty && digits.all (fun c => isHexDigit c && hexValue c < base) then
    some (digits.foldl (fun value c => base * value + hexValue c) 0)
  else none

/-- The value of a whole number without a unit. -/
def wholeValue? : List Char → Option Nat
  | '0' :: 'x' :: digits => digitsValue? 16 digits
  | '0' :: 'o' :: digits => digitsValue? 8 digits
  | '0' :: 'b' :: digits => digitsValue? 2 digits
  | digits => digitsValue? 10 digits

/-- Field numbers are smaller than this. -/
def fieldLimit : Nat := 4294967296

/-- The number of a field as it is spelled. -/
def fieldNumber? (spelled : List Char) : Option Nat :=
  (wholeValue? spelled).filter (· < fieldLimit)

/-- What stands before, between and behind the points. -/
def splitAtPoints : List Char → List (List Char)
  | [] => [[]]
  | c :: rest =>
      match c, splitAtPoints rest with
      | '.', parts => [] :: parts
      | c, [] => [[c]]
      | c, part :: parts => (c :: part) :: parts

/-- Fields one inside the other, the outermost first. -/
structure FieldPath where
  numbers : List Nat
  /-- Whether a point follows, behind which the path goes on. -/
  goesOn : Bool
  deriving DecidableEq, Repr

namespace FieldPath

/-- The fields that a number stands for. -/
def read? (spelling : String) : Option FieldPath :=
  let parts := splitAtPoints spelling.toList
  let goesOn := decide (1 < parts.length) && parts.getLast? == some []
  ((if goesOn then parts.dropLast else parts).mapM fieldNumber?).map (⟨·, goesOn⟩)

/-- The code of fields, with points between them and possibly behind them. -/
def codeFrom (goesOn : Bool) : List Nat → Code
  | [] => done
  | [last] =>
      token (.number (toString last)) (if goesOn then token (.sign '.' false) done else done)
  | number :: rest =>
      token (.number (toString number)) (token (.sign '.' false) (codeFrom goesOn rest))

/-- The code of a path. -/
def code (path : FieldPath) : Code := codeFrom path.goesOn path.numbers

end FieldPath

end Storyboard.Code
