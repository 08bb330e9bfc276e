import Storyboard.Code.Grammar.Form

/-!
# Attributes and expansions

An attribute stands before what it describes, or at the beginning of the brackets that it describes.
An expansion is a path of plain words that is called with an exclamation mark; what stands in its
brackets is of no form.
-/

namespace Storyboard.Code.Grammar

open Reader

/-! ## Plain paths -/

/-- The words that begin a path or go on with it, besides names. -/
def pathWords : List String := ["super", "self", "Self", "crate"]

/-- Whether code begins with a word that may stand in a plain path. -/
def beginsPathWord (code : Code) : Bool :=
  code.begins .name || pathWords.any fun spelling => code.begins (.word spelling)

/-- Reads a word of a plain path. -/
def pathWord : Reader Unit := do
  if beginsPathWord (← ahead) then piece else failure

/-- Reads a path of words alone. -/
def plainPath : Reader Unit := do
  let _ ← accept (.signs "::")
  pathWord
  repeated do
    if ← accept (.signs "::") then
      pathWord
      return true
    else return false

/-! ## Attributes -/

variable (forms : Forms)

/-- Reads the value of an attribute: a literal that is all there is, or an expression. -/
def attributeValue : Reader Unit := do
  let code ← ahead
  match literalLength? code with
  | some count =>
      if (← codeBehind? (pieces count)) = some done then pieces count else forms.expression
  | none =>
      if code.begins (.signs "#") && code.beginsSecond (.bracket .square) then failure
      else forms.expression

/-- Reads an attribute without its sign and its brackets. -/
def attributeContent : Reader Unit := do
  if !(← accept (.word "unsafe")) then plainPath
  if !(← accept .anyBracket) then
    if ← accept (.signs "=") then attributeValue forms

/-- Reads the attributes before something, and says whether there are any. -/
def attributes : Reader Bool := do
  let described ← sees (.signs "#")
  repeated do
    if ← accept (.signs "#") then
      within .square (attributeContent forms)
      return true
    else return false
  return described

/-- Reads the attributes at the beginning of brackets. -/
def innerAttributes : Reader Unit :=
  repeated do
    let code ← ahead
    if code.begins (.signs "#") && code.beginsSecond (.signs "!") then
      take (.signs "#")
      take (.signs "!")
      within .square (attributeContent forms)
      return true
    else return false

/-- Reads a block in curly brackets that may begin with attributes of its own. -/
def describedBlock : Reader Unit :=
  within .curly do
    innerAttributes forms
    forms.statements

end Storyboard.Code.Grammar
