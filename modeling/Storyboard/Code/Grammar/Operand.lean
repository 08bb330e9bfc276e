import Storyboard.Code.Grammar.Pattern

/-!
# Operands

An operand is a literal, a path, something in brackets, a closure, a block or one of the forms that
begin with a reserved word.  Signs may stand before it, and fields, calls and indices behind it.
-/

namespace Storyboard.Code.Grammar

open Reader

variable (forms : Forms)

/-! ## Behind an operand -/

/-- Reads a field, a method or a waiting behind its point.  Numbers of fields that end in a point
are followed by one of these. -/
def fieldAccess : Reader Unit := do
  if (← fieldNumbers?) ≠ some false && !(← accept (.word "await")) then
    if ← accept .name then
      if ← accept (.signs "::") then
        angleArguments forms
        forms.arguments
    else fieldNumber

/-- Reads all that stands behind an operand and belongs to it.  A range is no operand of these. -/
def trailers (shape : Shape) : Reader Shape :=
  iterate (fun shape => do
    let code ← ahead
    if code.begins (.bracket .round) then
      forms.arguments
      return some .plain
    else if shape = .range then return none
    else if beginsPoint code then
      take (.signs ".")
      fieldAccess forms
      return some .plain
    else if code.begins (.bracket .square) then
      within .square forms.expression
      return some .plain
    else if code.begins (.signs "?") then
      take (.signs "?")
      return some .plain
    else return none) shape

/-! ## Brackets -/

/-- Reads a list in square brackets, or an expression and how often it is repeated. -/
def squareList : Reader Unit :=
  within .square do
    if !(← atEnd) then
      forms.expression
      if ← accept (.signs ";") then forms.expression
      else if !(← atEnd) then
        take (.signs ",")
        entries forms.expression

/-- Reads the fields of a value in curly brackets.  Two points stand before the value that the other
fields are taken from. -/
def fieldValues : Reader Unit :=
  within .curly <| repeated do
    if ← atEnd then return false
    if ← accept (.signs "..") then
      if !(← atEnd) then forms.expression
      return false
    let _ ← attributes forms
    let isNamed ← fieldMember
    if !isNamed || (← sees (.signs ":")) then
      take (.signs ":")
      forms.expression
    if ← atEnd then return false
    take (.signs ",")
    return true

/-- Reads an operand that begins with a path. -/
def pathOperand (withFields : Bool) : Reader Shape := do
  let path ← path forms true
  match ← expansion? path with
  | some .curly => return .bracedExpansion
  | some _ => return .plain
  | none =>
      if withFields && (← sees (.bracket .curly)) then fieldValues forms
      return .plain

/-! ## Closures -/

def closureParameter : Reader Unit := do
  let _ ← attributes forms
  forms.pattern
  if ← accept (.signs ":") then forms.type

def closure (withFields : Bool) : Reader Unit := do
  let _ ← binder forms
  for spelling in ["const", "static", "async", "move"] do
    let _ ← accept (.word spelling)
  take (.signs "|")
  entriesUpTo (·.begins (.signs "|")) (closureParameter forms)
  take (.signs "|")
  if ← accept (.signs "->") then
    forms.type
    forms.block
  else
    let _ ← forms (.expression withFields)

def beginsClosure (code : Code) : Bool :=
  code.begins (.signs "|") || code.begins (.word "move")
    || code.begins (.word "for") && code.beginsSecond (.signs "<")
      && (code.beginsThird .label || code.beginsThird (.signs ">"))
    || code.begins (.word "const") && !code.beginsSecond (.bracket .curly)
    || code.begins (.word "static")
    || code.begins (.word "async")
      && (code.beginsSecond (.signs "|") || code.beginsSecond (.word "move"))

/-! ## Ranges -/

/-- Whether the end of a range is left out before this code. -/
def beginsBehindRange (withFields : Bool) (code : Code) : Bool :=
  code.isDone || beginsPoint code || !withFields && code.begins (.bracket .curly)
    || code.begins (.word "as")
    || [",", ";", "?", "=>", "=", "+", "/", "%", "^", ">", "<=", "!=", "-=", "*=", "&=", "|=",
        "<<="].any fun spelling => code.begins (.signs spelling)

/-- Reads a right operand with the operators behind it that bind more tightly than the operator
before it.  Assignments are grouped from the right, and nothing follows a range. -/
def rightOperand (withFields : Bool) (before : Precedence) : Reader Unit := do
  let first ← forms (.operand withFields)
  let _ ← iterate (fun shape => do
    let next := precedenceAhead (← ahead)
    if shape ≠ .range && (before.level < next.level || next = before && before = .assignment) then
      return some (← forms (.operation shape withFields next))
    else return none) first

/-- Reads the sign of a range and its end, which may be left out if it does not belong to the
range. -/
def rangeTail (withFields : Bool) : Reader Unit := do
  let isClosed ← rangeSign false
  if isClosed || !beginsBehindRange withFields (← ahead) then
    rightOperand forms withFields .range

/-! ## Reserved words -/

def beginsExpression (code : Code) : Bool :=
  code.begins .anyWord && !code.begins (.word "as")
    || code.begins .anyBracket || code.begins .literal || beginsExpansion code
    || code.begins (.signs "-") && !code.begins (.signs "-=") && !code.begins (.signs "->")
    || code.begins (.signs "*") && !code.begins (.signs "*=")
    || code.begins (.signs "|") && !code.begins (.signs "|=")
    || code.begins (.signs "&") && !code.begins (.signs "&=")
    || code.begins (.signs "..") || beginsAngle code || code.begins (.signs "::")
    || code.begins .label || code.begins (.signs "#")

/-- Reads an expression if one begins here. -/
def optionalExpression : Reader Unit := do
  if beginsExpression (← ahead) then forms.expression

/-- Reads a way out of a loop with the value that it gives. -/
def leaving (withFields : Bool) : Reader Unit := do
  take (.word "break")
  if ← accept .label then
    if ← sees (.signs ":") then failure
  let code ← ahead
  if beginsExpression code && (withFields || !code.begins (.bracket .curly)) then forms.expression

def binding (withFields : Bool) : Reader Unit := do
  take (.word "let")
  forms.alternatives
  take (.signs "=")
  let left ← forms (.operand withFields)
  let _ ← forms (.operation left withFields .comparison)

/-- Reads a choice between blocks. -/
def choice : Reader Unit :=
  repeated do
    take (.word "if")
    forms.condition
    forms.block
    if ← accept (.word "else") then
      if ← sees (.word "if") then return true
      else
        forms.block
        return false
    else return false

/-- Reads the arms of a choice between patterns. -/
def arms : Reader Unit :=
  repeated do
    if ← atEnd then return false
    let _ ← attributes forms
    forms.alternatives
    if ← accept (.word "if") then forms.expression
    take (.signs "=>")
    let shape ← forms .statementExpression
    if shape = .block || (← atEnd) then
      let _ ← accept (.signs ",")
    else take (.signs ",")
    return true

def loop : Reader Unit := do
  if ← accept (.word "while") then
    forms.condition
    describedBlock forms
  else if ← accept (.word "for") then
    forms.alternatives
    take (.word "in")
    forms.condition
    describedBlock forms
  else
    take (.word "loop")
    describedBlock forms

def beginsLoop (code : Code) : Bool :=
  code.begins (.word "while") || code.begins (.word "for") || code.begins (.word "loop")

/-- Reads a block or a loop with a label. -/
def labelled : Reader Unit := do
  take .label
  take (.signs ":")
  if beginsLoop (← ahead) then loop forms else describedBlock forms

/-- Reads a choice between patterns. -/
def patternChoice : Reader Unit := do
  take (.word "match")
  forms.condition
  within .curly do
    innerAttributes forms
    arms forms

/-- Whether code begins with one of the forms that end where their curly brackets do. -/
def beginsBlock (code : Code) : Bool :=
  code.begins (.bracket .curly) || code.begins .label || code.begins (.word "if")
    || beginsLoop code || code.begins (.word "match") || code.begins (.word "unsafe")
    || (code.begins (.word "try") || code.begins (.word "const"))
      && code.beginsSecond (.bracket .curly)

/-- Reads one of the forms that end where their curly brackets do. -/
def blockOperand : Reader Unit := do
  let code ← ahead
  if code.begins .label then labelled forms
  else if code.begins (.word "if") then choice forms
  else if beginsLoop code then loop forms
  else if code.begins (.word "match") then patternChoice forms
  else if code.begins (.word "try") then
    piece
    forms.block
  else
    if code.begins (.word "unsafe") || code.begins (.word "const") then piece
    describedBlock forms

/-! ## All operands -/

/-- Whether code begins with a path or with an expansion that is called by a reserved word. -/
def beginsPathOperand (code : Code) : Bool :=
  beginsPath code
    || code.begins (.word "try")
      && (code.beginsSecond (.signs "!") || code.beginsSecond (.signs "::"))

/-- Whether code begins with a block that is run later. -/
def beginsLaterBlock (code : Code) : Bool :=
  code.begins (.word "async")
    && (code.beginsSecond (.bracket .curly)
      || code.beginsSecond (.word "move") && code.beginsThird (.bracket .curly))

/-- Reads an operand without what may stand before and behind it. -/
def atom (withFields : Bool) : Reader Shape := do
  let code ← ahead
  if code.begins .literal || code.begins (.word "_") then piece
  else if beginsLaterBlock code then
    piece
    let _ ← accept (.word "move")
    forms.block
  else if code.begins (.word "try") && code.beginsSecond (.bracket .curly) then
    blockOperand forms
    return .block
  else if beginsClosure code then closure forms withFields
  else if code.begins (.word "builtin") && code.beginsSecond (.signs "#") then
    pieces 2
    take .name
    take (.bracket .round)
  else if beginsPathOperand code then return ← pathOperand forms withFields
  else if code.begins (.bracket .round) then within .round (entries forms.expression)
  else if code.begins (.bracket .square) then squareList forms
  else if code.begins (.word "break") then leaving forms withFields
  else if code.begins (.word "continue") then
    piece
    let _ ← accept .label
  else if code.begins (.word "return") || code.begins (.word "yield") then
    piece
    optionalExpression forms
  else if code.begins (.word "become") then
    piece
    forms.expression
  else if code.begins (.word "let") then binding forms withFields
  else if beginsBlock code then
    blockOperand forms
    return .block
  else if code.begins (.signs "..") then
    rangeTail forms withFields
    return .range
  else failure
  return .plain

/-- Reads an operand with what stands before and behind it.  Attributes do not describe a range. -/
def readOperand (withFields : Bool) : Reader Shape := do
  let isDescribed ← attributes forms
  let code ← ahead
  if code.begins (.signs "&") then
    piece
    let code ← ahead
    if code.begins (.word "raw")
        && (code.beginsSecond (.word "mut") || code.beginsSecond (.word "const")) then pieces 2
    else
      let _ ← accept (.word "mut")
    let _ ← forms (.operand withFields)
    return .plain
  else if code.begins (.signs "*") || code.begins (.signs "!") || code.begins (.signs "-") then
    piece
    let _ ← forms (.operand withFields)
    return .plain
  else
    let shape ← trailers forms (← atom forms withFields)
    if isDescribed && shape = .range then failure
    return shape

end Storyboard.Code.Grammar
