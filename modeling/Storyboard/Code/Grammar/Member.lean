import Storyboard.Code.Field
import Storyboard.Code.Grammar.Reader

/-!
# Members

What is read behind a point: the name or the number of a field, or several numbers that look like
one number with a point.  Numbers are taken over in decimal digits.
-/

namespace Storyboard.Code.Grammar

open Reader

/-- Reads the numbers of fields as they stand behind a point.  The result says whether a point
follows them, behind which a further field is named; it is none if there is no number. -/
def fieldNumbers? : Reader (Option Bool) := do
  match ← ahead with
  | token (.number spelling) _ =>
      match FieldPath.read? spelling with
      | some path =>
          replace path.code
          return some path.goesOn
      | none => failure
  | _ => return none

def fieldNumber : Reader Unit := do
  match ← ahead with
  | token (.number spelling) _ =>
      match FieldPath.read? spelling with
      | some path =>
          if path.numbers.length = 1 && !path.goesOn then replace path.code else failure
      | none => failure
  | _ => failure

/-- Reads the name or the number of a single field, and says whether it is a name. -/
def fieldMember : Reader Bool := do
  if ← accept .name then return true
  else
    fieldNumber
    return false

end Storyboard.Code.Grammar
