import Storyboard.Code.Basic

/-!
# What code begins with

The rules of a grammar look at the first pieces of the code ahead of them and never go back.  A
`Lead` says what may stand at the beginning of code, and `Lead.length?` finds out whether it does
and how many pieces it is.
-/

namespace Storyboard.Code

/-- What code may begin with. -/
inductive Lead where
  /-- Signs in a row, each of them joined to the next. -/
  | signs (spelling : String)
  | word (spelling : String)
  | name
  | anyWord
  /-- A word with an apostrophe before it. -/
  | label
  | text
  /-- A literal, which is also one of the truth values or a number with a minus before it. -/
  | literal
  | bracket (kind : Bracket)
  | anyBracket
  deriving DecidableEq, Repr

/-- Whether code begins with signs in a row. -/
def startsSigns : List Char → Code → Bool
  | [], _ => true
  | [c], token (.sign d _) _ => c == d
  | c :: more, token (.sign d isJoined) rest => c == d && isJoined && startsSigns more rest
  | _, _ => false

/-- The number of pieces of the literal at the beginning of code. -/
def literalLength? : Code → Option Nat
  | token (.number _) _ | token (.text _) _ | token (.literal _) _ => some 1
  | token (.word spelling) _ => if spelling = "true" ∨ spelling = "false" then some 1 else none
  | token (.sign '-' _) (token (.number _) _) => some 2
  | _ => none

namespace Lead

/-- The number of pieces that a lead has at the beginning of code, none if code does not begin
so. -/
def length? (lead : Lead) (code : Code) : Option Nat :=
  match lead, code with
  | signs spelling, code =>
      if startsSigns spelling.toList code then some spelling.length else none
  | word spelling, token (.word found) _ => if found = spelling then some 1 else none
  | name, token (.word found) _ => if isName found then some 1 else none
  | anyWord, token (.word _) _ => some 1
  | label, token (.sign '\'' true) (token (.word _) _) => some 2
  | text, token (.text _) _ => some 1
  | literal, code => literalLength? code
  | bracket kind, group found _ _ => if found = kind then some 1 else none
  | anyBracket, group _ _ _ => some 1
  | _, _ => none

end Lead

/-- Whether code begins with a lead. -/
def begins (code : Code) (lead : Lead) : Bool := (lead.length? code).isSome

/-- The code behind the first piece.  A label counts as one piece, although it is a sign and a
word. -/
def behindFirst : Code → Code
  | done => done
  | token (.sign '\'' true) (token (.word _) rest) => rest
  | token _ rest => rest
  | group _ _ rest => rest

/-- Whether code begins with a lead behind its first piece. -/
def beginsSecond (code : Code) (lead : Lead) : Bool := code.behindFirst.begins lead

/-- Whether code begins with a lead behind its first two pieces. -/
def beginsThird (code : Code) (lead : Lead) : Bool := code.behindFirst.behindFirst.begins lead

/-- Whether code begins with a point that is not the first of two. -/
def beginsPoint (code : Code) : Bool := code.begins (.signs ".") && !code.begins (.signs "..")

end Storyboard.Code
