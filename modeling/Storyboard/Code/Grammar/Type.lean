import Storyboard.Code.Grammar.Path

/-!
# Types

A type is a path, a tuple, a reference and so on, or a list of bounds that it has to meet.  Bounds
are paths or labels with plus signs between them; at least one of a list has to be a path.
-/

namespace Storyboard.Code.Grammar

open Reader

variable (forms : Forms)

/-! ## Bounds -/

/-- Reads the labels that something is stated for, if it is stated for any. -/
def binder : Reader Bool := do
  if ← accept (.word "for") then
    take (.signs "<")
    entriesUpTo (·.begins (.signs ">")) do
      let _ ← attributes forms
      take .label
    take (.signs ">")
    return true
  else return false

/-- Whether code begins with arguments in round brackets. -/
def beginsRoundArguments (code : Code) : Bool :=
  code.begins (.bracket .round) || code.begins (.signs "::") && code.beginsThird (.bracket .round)

/-- Reads arguments in round brackets with a result, and says whether the path may go on.  Two
colons before the brackets do not count. -/
def roundArguments : Reader Bool := do
  pass (.signs "::")
  within .round (entries forms.type)
  if ← accept (.signs "->") then return (← forms.narrowType) = .closedType
  else return true

/-- Reads a path with the signs that may stand before it as a bound. -/
def pathBound (withConstant : Bool) : Reader Unit := do
  let isBound ← binder forms
  let isBracketed ← sees (.bracket .square)
  if isBracketed then within .square (take (.word "const"))
  let isConstant ← if isBracketed then pure true else accept (.word "const")
  if isConstant && !withConstant then failure
  let isRelaxed ← accept (.signs "?")
  let isBound ← if isRelaxed && !isBound then binder forms else pure isBound
  let shape ← simplePath forms false
  if !shape.endsInArguments && beginsRoundArguments (← ahead) then
    let _ ← roundArguments forms
  if isBound && isRelaxed then failure

/-- Reads the labels and names that are captured. -/
def capture : Reader Unit := do
  take (.word "use")
  take (.signs "<")
  entriesLabelsFirst (·.begins (.signs ">")) do
    if ← accept .label then return true
    if !(← accept (.word "Self")) then take .name
    return false
  take (.signs ">")

/-- Reads a bound.  The shape tells whether it is a path. -/
def readBound (withCapture withConstant : Bool) : Reader Shape := do
  let code ← ahead
  if code.begins .label then
    take .label
    return .plain
  else if code.begins (.word "use") then
    if withCapture then capture else failure
    return .plain
  else
    if code.begins (.bracket .round) then within .round (pathBound forms withConstant)
    else pathBound forms withConstant
    return .boundType

/-- Whether code begins so that a further bound stands behind a plus sign. -/
def beginsBound (withConstant : Bool) (code : Code) : Bool :=
  code.begins .anyWord || code.begins (.signs "::") || code.begins (.signs "?")
    || code.begins .label || code.begins (.bracket .round)
    || withConstant && (code.begins (.bracket .square) || code.begins (.word "const"))

/-- Reads bounds with plus signs between them, of which at least one has to be a path. -/
def bounds (withPlus withCapture withConstant : Bool) : Reader Unit := do
  let first ← forms (.bound withCapture withConstant)
  let (_, hasPath) ← iterate (fun (isOpen, hasPath) => do
    if !isOpen || !withPlus then return none
    if ← accept (.signs "+") then
      if beginsBound withConstant (← ahead) then
        let next ← forms (.bound withCapture withConstant)
        return some (true, hasPath || next = .boundType)
      else return some (false, hasPath)
    else return none) (true, decide (first = .boundType))
  if !hasPath then failure

/-- Reads the bounds behind plus signs. -/
def furtherBounds : Reader Unit :=
  repeated do
    if ← accept (.signs "+") then
      forms.bound
      return true
    else return false

/-! ## Types of functions -/

def resultType : Reader Unit := do
  if ← accept (.signs "->") then
    let _ ← forms.narrowType

/-- Whether code begins with a name that is given to a parameter. -/
def beginsParameterName (isFirst : Bool) (code : Code) : Bool :=
  (code.begins .name || code.begins (.word "_") || isFirst && code.begins (.word "self"))
    && code.beginsSecond (.signs ":") && !code.beginsSecond (.signs "::")

/-- Whether code begins with the word for a changing receiver. -/
def beginsChangingSelf (code : Code) : Bool :=
  code.begins (.word "mut") && code.beginsSecond (.word "self")

/-- Reads a parameter in the type of a function. -/
def parameterType (isFirst : Bool) : Reader Unit := do
  let isChanging := isFirst && beginsChangingSelf (← ahead)
  if isChanging then piece
  let isNamed := beginsParameterName isFirst (← ahead)
  let isReceiver := isNamed && (← sees (.word "self"))
  if isNamed then
    piece
    take (.signs ":")
  if isFirst && !isReceiver && beginsChangingSelf (← ahead) then pieces 2
  else if isChanging && !isNamed then take (.word "self")
  else forms.type

/-- Whether code begins with the sign for any number of parameters. -/
def beginsVariadic (code : Code) : Bool :=
  code.begins (.signs "...")
    || (code.begins .name || code.begins (.word "_")) && code.beginsSecond (.signs ":")
      && code.beginsThird (.signs "...")

/-- Reads the sign for any number of parameters, which may have a name. -/
def variadic : Reader Unit := do
  if !(← sees (.signs "...")) then
    piece
    take (.signs ":")
  take (.signs "...")
  let _ ← accept (.signs ",")

/-- Reads the parameters in the type of a function. -/
def parameterTypes : Reader Unit := do
  let _ ← iterate (fun (isFirst, isOpen) => do
    if !isOpen || (← atEnd) then return none
    let _ ← attributes forms
    if beginsVariadic (← ahead) then
      variadic
      return some (false, false)
    parameterType forms isFirst
    if ← atEnd then return some (false, false)
    take (.signs ",")
    return some (false, true)) (true, true)

def functionType : Reader Unit := do
  let _ ← accept (.word "unsafe")
  if ← accept (.word "extern") then
    let _ ← accept .text
  take (.word "fn")
  within .round (parameterTypes forms)
  resultType forms

/-! ## Types in round brackets -/

/-- What stands in round brackets as a type. -/
inductive Enclosed where
  /-- Nothing, or several types. -/
  | tuple
  /-- A bound that is relaxed. -/
  | relaxedBound
  | single (shape : Shape)

/-- Reads what stands in round brackets as a type. -/
def enclosedType : Reader Enclosed := do
  let code ← ahead
  if code.isDone then return .tuple
  else if code.begins .label then
    bounds forms true false false
    return .single .plain
  else if code.begins (.signs "?") then
    pathBound forms false
    return .relaxedBound
  else
    let shape ← forms (.type true)
    if ← accept (.signs ",") then
      entries forms.type
      return .tuple
    else return .single shape

def roundType (withBounds : Bool) : Reader Shape := do
  match ← within .round (enclosedType forms) with
  | .tuple => return .plain
  | .relaxedBound =>
      furtherBounds forms
      return .plain
  | .single shape =>
      if withBounds && (shape = .nameType || shape = .boundType) && (← sees (.signs "+")) then
        furtherBounds forms
        return .plain
      else return .closedType

/-! ## Types that are paths -/

/-- Reads a path that may carry arguments in round brackets.  The result says whether it does. -/
def typePath : Reader (PathShape × Bool) := do
  let first ← path forms false
  iterate (fun (path, _) => do
    if !path.endsInArguments && beginsRoundArguments (← ahead) then
      let path := { path with hasArguments := true, endsInArguments := true }
      if ← roundArguments forms then return some (← moreSegments forms false path, true)
      else return some (path, true)
    else return none) (first, false)

/-- Reads a type that is a path, an expansion, or bounds of which the first is a path. -/
def pathType (withBounds isBound : Bool) : Reader Shape := do
  let (path, isCalled) ← typePath forms
  if path.isQualified then return .plain
  if (← expansion? path).isSome then return .plain
  if withBounds && (← sees (.signs "+")) then
    repeated do
      if ← accept (.signs "+") then
        if beginsBound false (← ahead) then
          forms.bound
          return true
      return false
    return .plain
  else return if path.isSingle && !isCalled && !isBound then .nameType else .boundType

/-! ## All types -/

def beginsPath (code : Code) : Bool :=
  beginsPathWord code || code.begins (.signs "::") || code.begins (.signs "<")

/-- Whether code begins with the type of a function. -/
def beginsFunctionType (code : Code) : Bool :=
  code.begins (.word "fn") || code.begins (.word "unsafe") || code.begins (.word "extern")

/-- Reads the type that a pointer or a reference points to. -/
def target : Reader Shape := do
  let _ ← forms.narrowType
  return .plain

/-- Reads a list of types of the same kind, or a type and how many of it there are. -/
def squareType : Reader Unit :=
  within .square do
    forms.type
    if ← accept (.signs ";") then forms.expression

def readType (withBounds : Bool) : Reader Shape := do
  let isBound ← binder forms
  let code ← ahead
  if isBound && !beginsPathWord code && !beginsFunctionType code then failure
  if code.begins (.bracket .round) then roundType forms withBounds
  else if beginsFunctionType code then
    functionType forms
    return .plain
  else if beginsPath code then pathType forms withBounds isBound
  else if code.begins (.word "dyn") then
    piece
    let _ ← accept (.signs "*")
    bounds forms withBounds false false
    return .plain
  else if code.begins (.bracket .square) then
    squareType forms
    return .plain
  else if code.begins (.signs "*") then
    piece
    if !(← accept (.word "const")) then take (.word "mut")
    target forms
  else if code.begins (.signs "&") then
    piece
    let _ ← accept .label
    let _ ← accept (.word "mut")
    target forms
  else if code.begins (.signs "!") || code.begins (.word "_") then
    piece
    return .plain
  else if code.begins (.word "impl") then
    piece
    bounds forms withBounds true true
    return .plain
  else if code.begins .label then
    bounds forms true false false
    return .plain
  else failure

end Storyboard.Code.Grammar
