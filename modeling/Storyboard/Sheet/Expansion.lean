import Storyboard.Code.Phrase
import Storyboard.Sheet.Declaration

/-!
# Expansion of a style sheet

A style sheet expands to code that builds the style: a new style, to which one property after the
other is added.  No property may be declared more than once.
-/

namespace Storyboard.Sheet

open Storyboard.Code

/-- The first property that is declared by one of the declarations although it is among those that
were declared before. -/
def declaredAgain? (before : List String) : List Declaration → Option String
  | [] => none
  | declaration :: rest =>
      if before.contains declaration.property then some declaration.property
      else declaredAgain? (declaration.property :: before) rest

/-- The code that adds a property. -/
def addition (declaration : Declaration) : Code :=
  method "with" (text declaration.property ++ sign ',' ++ text declaration.value)

/-- The code that builds the style. -/
def expansion (declarations : List Declaration) : Code :=
  path ["workstation", "Style", "new"] ++ unit ++ concat (declarations.map addition)

/-- Expands code as a style sheet. -/
def expandCode (code : Code) : Except Refusal Code :=
  match readDeclarations code with
  | .error refusal => .error refusal
  | .ok [] => .error (.fault .noDeclarations)
  | .ok declarations =>
      match declaredAgain? [] declarations with
      | some property => .error (.fault (.declaredAgain property))
      | none => .ok (expansion declarations)

/-- Expands a text as a style sheet. -/
def expand (input : String) : Except Refusal Code := readAs expandCode input

end Storyboard.Sheet
