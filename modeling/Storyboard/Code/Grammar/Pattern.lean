import Storyboard.Code.Grammar.Member
import Storyboard.Code.Grammar.Type

/-!
# Patterns

A pattern describes values: by a name, by a literal or a range of literals, by the parts that they
are made of, or by several alternatives.
-/

namespace Storyboard.Code.Grammar

open Reader

variable (forms : Forms)

/-! ## Ranges -/

/-- Reads the sign of a range, and says whether its end belongs to it.  The older sign with three
points is read where it is admitted. -/
def rangeSign (withOlder : Bool) : Reader Bool := do
  if ← accept (.signs "..=") then return true
  else if ← sees (.signs "...") then
    if withOlder then take (.signs "...") else failure
    return true
  else
    take (.signs "..")
    return false

/-- Whether a bound of a range of patterns is left out before this code. -/
def beginsBehindPattern (code : Code) : Bool :=
  code.isDone || code.begins (.signs "|") || code.begins (.signs "=")
    || code.begins (.signs ":") && !code.begins (.signs "::")
    || code.begins (.signs ",") || code.begins (.signs ";") || code.begins (.word "if")

/-- Reads a bound of a range of patterns: a literal, a path or a constant.  The result says whether
there is one. -/
def rangeBound : Reader Bool := do
  let code ← ahead
  if beginsBehindPattern code then return false
  else
    if code.begins .literal then take .literal
    else if beginsPath code then
      let _ ← path forms true
    else
      take (.word "const")
      describedBlock forms
    return true

/-- Reads a range behind its first bound, if that was not left out. -/
def patternRange (withOlder hasStart : Bool) : Reader Shape := do
  let isClosed ← rangeSign withOlder
  let hasEnd ← rangeBound forms
  if isClosed && !hasEnd then failure
  return if hasStart && hasEnd || !hasStart && !hasEnd then .plain else .range

/-! ## Parts -/

/-- Reads alternatives in a list.  A range that is open on one side cannot stand in square brackets
by itself. -/
def listedPattern (inSquare : Bool) : Reader Unit := do
  let shape ← forms .alternatives
  if inSquare && shape = .range then failure

/-- Reads what a field of a value is described by. -/
def fieldPattern : Reader Unit := do
  let isBoxed ← accept (.word "box")
  let isReference ← accept (.word "ref")
  let isChanging ← accept (.word "mut")
  let isNamed ← fieldMember
  if isBoxed || isReference || isChanging then
    if !isNamed then failure
  else if !isNamed || (← sees (.signs ":")) then
    take (.signs ":")
    forms.alternatives

/-- Reads the fields in a pattern.  Two points stand for those that are not described. -/
def fieldPatterns : Reader Unit :=
  repeated do
    if ← atEnd then return false
    let _ ← attributes forms
    if ← accept (.signs "..") then return false
    fieldPattern forms
    if ← atEnd then return false
    take (.signs ",")
    return true

def pathPattern : Reader Shape := do
  let path ← path forms true
  if (← expansion? path).isSome then return .plain
  let code ← ahead
  if code.begins (.bracket .curly) then
    within .curly (fieldPatterns forms)
    return .plain
  else if code.begins (.bracket .round) then
    within .round (entries forms.alternatives)
    return .plain
  else if code.begins (.signs "..") then patternRange forms true true
  else return .plain

/-- Reads a pattern that is a name, with the pattern that may stand behind it. -/
def namePattern : Reader Unit := do
  let _ ← accept (.word "ref")
  let _ ← accept (.word "mut")
  if !(← accept (.word "self")) then take .name
  if ← accept (.signs "@") then forms.pattern

/-- Reads a pattern that is a literal or a constant, or a range that begins with one. -/
def literalPattern : Reader Shape := do
  if !(← rangeBound forms) then failure
  if ← sees (.signs "..") then patternRange forms true true else return .plain

/-! ## All patterns -/

/-- Whether code begins with a name that is the beginning of a path. -/
def beginsPathPattern (code : Code) : Bool :=
  code.begins .name
      && (code.beginsSecond (.signs "::") || code.beginsSecond (.signs "!")
        || code.beginsSecond (.bracket .curly) || code.beginsSecond (.bracket .round)
        || code.beginsSecond (.signs ".."))
    || code.begins (.word "self") && code.beginsSecond (.signs "::")
    || code.begins (.signs "::") || code.begins (.signs "<") || code.begins (.word "Self")
    || code.begins (.word "super") || code.begins (.word "crate")

/-- Reads a single pattern.  The shape tells whether it is a range that is open on one side. -/
def readPattern : Reader Shape := do
  let code ← ahead
  if beginsPathPattern code then pathPattern forms
  else if code.begins (.word "_") then
    piece
    return .plain
  else if code.begins (.word "box") then
    piece
    forms.pattern
    return .plain
  else if code.begins (.signs "-") || code.begins .literal || code.begins (.word "const") then
    literalPattern forms
  else if code.begins (.word "ref") || code.begins (.word "mut") || code.begins (.word "self")
      || code.begins .name then
    namePattern forms
    return .plain
  else if code.begins (.signs "&") then
    piece
    let _ ← accept (.word "mut")
    forms.pattern
    return .plain
  else if code.begins (.bracket .round) then
    within .round (entries forms.alternatives)
    return .plain
  else if code.begins (.bracket .square) then
    within .square (entries (listedPattern forms true))
    return .plain
  else if code.begins (.signs "..") then patternRange forms false false
  else failure

/-- Whether code begins with the sign between alternatives. -/
def beginsAlternative (code : Code) : Bool :=
  code.begins (.signs "|") && !code.begins (.signs "||") && !code.begins (.signs "|=")

/-- Reads a pattern or several alternatives, before which a further sign may stand.  The shape tells
whether it is a single range that is open on one side. -/
def readAlternatives : Reader Shape := do
  let isMarked ← accept (.signs "|")
  let first ← forms .pattern
  let isSingle := !isMarked && !beginsAlternative (← ahead)
  repeated do
    if beginsAlternative (← ahead) then
      take (.signs "|")
      forms.pattern
      return true
    else return false
  return if isSingle then first else .plain

end Storyboard.Code.Grammar
