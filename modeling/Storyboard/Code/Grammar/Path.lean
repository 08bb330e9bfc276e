import Storyboard.Code.Grammar.Attribute

/-!
# Paths

A path is made of names, which may carry arguments in angle brackets.  In an expression such
arguments stand behind two colons, because an angle bracket alone would be an operator.  A path may
begin with a type in angle brackets, which its first name is looked up in.
-/

namespace Storyboard.Code.Grammar

open Reader

variable (forms : Forms)

/-! ## Arguments in angle brackets -/

/-- Whether code begins with a constant as an argument. -/
def beginsConstant (code : Code) : Bool := code.begins .literal || code.begins (.bracket .curly)

def constantArgument : Reader Unit := do
  if ← sees (.bracket .curly) then describedBlock forms else take .literal

/-- Reads the bounds that a named argument has to meet. -/
def argumentBounds : Reader Unit :=
  repeated do
    let code ← ahead
    if code.begins (.signs ",") || code.begins (.signs ">") then return false
    let _ ← forms (.bound false true)
    accept (.signs "+")

/-- Reads an argument: a label, a constant, a type, or a name with what is asked of it.  The result
says whether it is a label. -/
def angleArgument : Reader Bool := do
  let code ← ahead
  if code.begins .label && !code.beginsSecond (.signs "+") then
    take .label
    return true
  if beginsConstant code then constantArgument forms
  else
    let shape ← forms (.type true)
    if shape = .nameType then
      if ← accept (.signs "=") then
        if beginsConstant (← ahead) then constantArgument forms else forms.type
      else if ← accept (.signs ":") then argumentBounds forms
  return false

def angleArguments : Reader Unit := do
  take (.signs "<")
  entriesLabelsFirst (·.begins (.signs ">")) (angleArgument forms)
  take (.signs ">")

/-! ## Segments -/

/-- What is known of a path that has been read. -/
structure PathShape where
  /-- Whether it begins with a type in angle brackets. -/
  isQualified : Bool
  /-- Whether it is a single segment with nothing before it. -/
  isSingle : Bool
  hasArguments : Bool
  endsInArguments : Bool

/-- Whether code begins with an angle bracket that is not part of another operator. -/
def beginsAngle (code : Code) : Bool :=
  code.begins (.signs "<") && !code.begins (.signs "<=") && !code.begins (.signs "<<=")

/-- The words that may be a segment but carry no arguments. -/
def bareSegments : List String := ["super", "self", "crate", "try"]

/-- Reads a segment, and says whether it carries arguments. -/
def segment (inExpression : Bool) : Reader Bool := do
  let code ← ahead
  if bareSegments.any fun spelling => code.begins (.word spelling) then
    piece
    return false
  else
    if !(← accept (.word "Self")) then take .name
    let code ← ahead
    if !inExpression && beginsAngle code
        || code.begins (.signs "::") && code.beginsThird (.signs "<") then
      let _ ← accept (.signs "::")
      angleArguments forms
      return true
    else return false

/-- Reads the segments behind a path that has been read so far.  Two colons before round brackets do
not belong to them. -/
def moreSegments (inExpression : Bool) (path : PathShape) : Reader PathShape :=
  iterate (fun path => do
    let code ← ahead
    if code.begins (.signs "::") && !code.beginsThird (.bracket .round) then
      take (.signs "::")
      let hasArguments ← segment forms inExpression
      return some
        { path with
          isSingle := false
          hasArguments := path.hasArguments || hasArguments
          endsInArguments := hasArguments }
    else return none) path

/-- Reads a path that begins with a segment. -/
def simplePath (inExpression : Bool) : Reader PathShape := do
  let isAbsolute ← accept (.signs "::")
  let hasArguments ← segment forms inExpression
  moreSegments forms inExpression ⟨false, !isAbsolute, hasArguments, hasArguments⟩

/-- Reads the segments behind a type in angle brackets. -/
def qualifiedSegments (inExpression : Bool) : Reader PathShape := do
  take (.signs "::")
  let hasArguments ← segment forms inExpression
  iterate (fun path => do
    if ← accept (.signs "::") then
      let hasArguments ← segment forms inExpression
      return some
        { path with
          hasArguments := path.hasArguments || hasArguments, endsInArguments := hasArguments }
    else return none) ⟨true, false, hasArguments, hasArguments⟩

def path (inExpression : Bool) : Reader PathShape := do
  if ← accept (.signs "<") then
    forms.type
    if ← accept (.word "as") then
      let _ ← simplePath forms false
    take (.signs ">")
    qualifiedSegments forms inExpression
  else simplePath forms inExpression

/-! ## Expansions -/

/-- Whether code begins with the exclamation mark of an expansion. -/
def beginsExpansion (code : Code) : Bool :=
  code.begins (.signs "!") && !code.begins (.signs "!=")

/-- Reads what an expansion is called on behind its path, if it is one.  The result says which
brackets that is. -/
def expansion? (path : PathShape) : Reader (Option Bracket) := do
  let code ← ahead
  if !path.isQualified && !path.hasArguments && beginsExpansion code then
    take (.signs "!")
    match ← ahead with
    | group bracket _ _ =>
        piece
        return some bracket
    | _ => failure
  else return none

end Storyboard.Code.Grammar
