import Storyboard.Code.Expression
import Storyboard.Code.Grammar.Statement

/-!
# A grammar of expressions

An expression is an operand, or several with operators between them.  Every piece of an expression
is kept, but the numbers of fields are written anew, two colons before arguments in round brackets
are passed over, and the labels among arguments in angle brackets come first.

The grammar is one reader for expressions.  It leaves out items, that is functions, types, uses and
other declarations inside blocks: where a block holds one, no expression is found.
-/

namespace Storyboard.Code.Grammar

open Reader

variable (forms : Forms)

/-! ## Operators -/

/-- Refuses what cannot stand behind a cast. -/
def endOfCast : Reader Unit := do
  let code ← ahead
  if beginsPoint code || code.begins (.signs "?") || code.begins (.bracket .square)
      || code.begins (.bracket .round) then failure

/-- Reads the operators behind an operand that bind at least as tightly as `base`, with their right
operands.  Comparisons do not follow each other, and nothing follows a range. -/
def readOperation (left : Shape) (withFields : Bool) (base : Precedence) : Reader Shape := do
  let code ← ahead
  if left = .range then return left
  else
    match operator? code with
    | some (spelling, precedence) =>
        if !precedence.isAtLeast base then return left
        else if precedence = .comparison && left = .comparison then failure
        else
          take (.signs spelling)
          rightOperand forms withFields precedence
          forms (.operation (if precedence = .comparison then .comparison else .plain)
            withFields base)
    | none =>
        if Precedence.assignment.isAtLeast base && beginsAssignment code then
          take (.signs "=")
          rightOperand forms withFields .assignment
          forms (.operation .plain withFields base)
        else if Precedence.range.isAtLeast base && code.begins (.signs "..") then
          rangeTail forms withFields
          forms (.operation .range withFields base)
        else if Precedence.cast.isAtLeast base && code.begins (.word "as") then
          take (.word "as")
          let _ ← forms.narrowType
          endOfCast
          forms (.operation .plain withFields base)
        else return left

/-! ## The grammar -/

/-- The rules of all forms. -/
def rule : Form → Reader Shape
  | .expression withFields => do
      forms (.operation (← forms (.operand withFields)) withFields .loosest)
  | .operand withFields => readOperand forms withFields
  | .operation left withFields base => readOperation forms left withFields base
  | .statementExpression => readStatementExpression forms
  | .statements => do
      readStatements forms
      return .plain
  | .pattern => readPattern forms
  | .alternatives => readAlternatives forms
  | .type withBounds => readType forms withBounds
  | .bound withCapture withConstant => readBound forms withCapture withConstant

/-- The readers of all forms that refer to each other at most `depth` times in a row. -/
def formsUpTo : Nat → Forms
  | 0 => fun _ => failure
  | depth + 1 => rule (formsUpTo depth)

/-- The readers of all forms that are to read some code.  Among a few forms that refer to each other
in a row there is one that takes over a piece, so they go no deeper than the code is long. -/
def formsFor (code : Code) : Forms := formsUpTo (8 * (code.size + 1))

end Storyboard.Code.Grammar

namespace Storyboard.Code

/-! ## Whole expressions -/

/-- Finds expressions by the grammar. -/
def expression? : ExpressionReader := fun code =>
  ((Grammar.formsFor code).expression (.start code)).map fun (_, reached) =>
    ⟨reached.code, reached.isWhole, reached.rest⟩

end Storyboard.Code
