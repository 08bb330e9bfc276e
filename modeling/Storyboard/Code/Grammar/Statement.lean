import Storyboard.Code.Grammar.Operand

/-!
# Statements

A block is made of statements.  Bindings, expressions and expansions are read here; items, such as
functions, types and uses, are left out, and a block that holds one is not read.  An expression that
ends with its curly brackets needs no semicolon behind it; any other needs one unless it is the
last.
-/

namespace Storyboard.Code.Grammar

open Reader

variable (forms : Forms)

/-! ## Expressions that are statements -/

/-- Whether the word for a loop over patterns begins a closure instead. -/
def beginsBinder (code : Code) : Bool :=
  code.begins (.word "for") && code.beginsSecond (.signs "<")
    && (code.beginsThird (.signs ">") || code.beginsThird (.signs "#")
      || code.beginsThird (.word "const")
      || (code.beginsThird .label || code.beginsThird .name)
        && [":", ",", ">", "="].any fun spelling =>
          code.behindFirst.behindFirst.beginsSecond (.signs spelling))

/-- Reads an expression that ends where a statement does: with its curly brackets if it is a block,
unless a field, a method or a question mark stands behind them. -/
def readStatementExpression : Reader Shape := do
  let _ ← attributes forms
  let code ← ahead
  let shape ←
    if beginsBlock code && !beginsBinder code then do
      blockOperand forms
      pure Shape.block
    else forms (.operand true)
  if shape ≠ .block then forms (.operation shape true .loosest)
  else
    let code ← ahead
    if beginsPoint code || code.begins (.signs "?") then
      forms (.operation (← trailers forms shape) true .loosest)
    else return .block

/-! ## Single statements -/

/-- Whether the piece that was read last is code in curly brackets. -/
def endsInBlock : Reader Bool := do
  match (← get).taken with
  | group .curly _ _ :: _ => return true
  | _ => return false

/-- Reads a binding with the block that is run where the pattern does not match. -/
def bindingStatement : Reader Unit := do
  take (.word "let")
  forms.pattern
  if ← accept (.signs ":") then forms.type
  if ← accept (.signs "=") then
    forms.expression
    if !(← endsInBlock) then
      if ← accept (.word "else") then forms.block
  take (.signs ";")

/-- Whether code behind a plain path begins with the call of an expansion on curly brackets that is
a statement by itself. -/
def beginsBracedCall (code : Code) : Bool :=
  let behind := code.behindFirst.behindFirst
  code.begins (.signs "!") && code.beginsSecond (.bracket .curly)
    && !(beginsPoint behind || behind.begins (.signs "?"))

/-- Whether code behind a plain path begins with the call of an expansion that is given a name. -/
def beginsNamedCall (code : Code) : Bool :=
  code.begins (.signs "!") && (code.beginsSecond .name || code.beginsSecond (.word "try"))

/-- Whether code begins with a word that has to be called as a statement by itself. -/
def beginsCalledWord (code : Code) : Bool :=
  code.begins (.word "crate") && !code.beginsSecond (.signs "::")

/-- Reads the call of an expansion that is a statement by itself, possibly with a name that it is
given. -/
def calledStatement : Reader Unit := do
  plainPath
  take (.signs "!")
  if !(← accept .name) then
    let _ ← accept (.word "try")
  if !(← accept (.bracket .curly)) then
    take .anyBracket
    take (.signs ";")

/-- Reads a statement that is no item, and says whether a semicolon is missing behind it. -/
def statement : Reader Bool := do
  let _ ← attributes forms
  let code ← ahead
  let behind := (← codeBehind? plainPath).getD done
  if beginsBracedCall behind then
    plainPath
    pieces 2
    let _ ← accept (.signs ";")
    return false
  else if code.begins (.word "let") then
    bindingStatement forms
    return false
  else if beginsNamedCall behind || beginsCalledWord code then
    calledStatement
    return false
  else
    let shape ← forms .statementExpression
    let isClosed ← accept (.signs ";")
    return !isClosed && shape ≠ .block && shape ≠ .bracedExpansion

/-! ## Blocks -/

/-- Reads statements up to the end.  Further semicolons may stand between them. -/
def readStatements : Reader Unit :=
  repeated do
    if ← accept (.signs ";") then return true
    else if ← atEnd then return false
    else
      let isOpen ← statement forms
      if ← atEnd then return false
      else if isOpen then failure
      else return true

end Storyboard.Code.Grammar
