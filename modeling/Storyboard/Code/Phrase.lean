import Storyboard.Code.Basic

/-!
# Phrases

Small pieces from which code is put together.
-/

namespace Storyboard.Code

def word (spelling : String) : Code := token (.word spelling) done

def sign (c : Char) : Code := token (.sign c false) done

/-- Several signs in a row, each joined to the next. -/
def signs (text : String) : Code :=
  text.toList.foldr (fun c rest => token (.sign c (!rest.isDone)) rest) done

/-- A text literal. -/
def text (contents : String) : Code := token (.text contents) done

def parenthesized (inner : Code) : Code := group .round inner done

def braced (inner : Code) : Code := group .curly inner done

def unit : Code := parenthesized done

/-- Pieces of code one after the other. -/
def concat (pieces : List Code) : Code := pieces.foldr (· ++ ·) done

@[simp] theorem concat_nil : concat [] = done := rfl

@[simp] theorem concat_cons (piece : Code) (rest : List Code) :
    concat (piece :: rest) = piece ++ concat rest := rfl

@[simp] theorem concat_append (first second : List Code) :
    concat (first ++ second) = concat first ++ concat second := by
  induction first with
  | nil => rfl
  | cons piece rest ih => rw [List.cons_append, concat_cons, concat_cons, ih, append_assoc]

/-- An absolute path: its names, each after two colons. -/
def path (names : List String) : Code := concat (names.map fun name => signs "::" ++ word name)

/-- A call of a method, without what it is called on. -/
def method (name : String) (arguments : Code) : Code :=
  sign '.' ++ word name ++ parenthesized arguments

end Storyboard.Code
