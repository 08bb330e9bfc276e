import Storyboard.Code.Grammar.Lead

/-!
# Operators

An operator stands between two operands.  How tightly it binds decides which operands belong
together, and so where an expression ends.
-/

namespace Storyboard.Code

/-- How tightly operators bind, the loosest first. -/
inductive Precedence where
  | loosest
  | assignment
  | range
  | disjunction
  | conjunction
  | comparison
  | bitOr
  | bitXor
  | bitAnd
  | shift
  | sum
  | product
  | cast
  deriving DecidableEq, Repr

namespace Precedence

/-- The place of a precedence among all. -/
def level : Precedence → Nat
  | loosest => 0
  | assignment => 1
  | range => 2
  | disjunction => 3
  | conjunction => 4
  | comparison => 5
  | bitOr => 6
  | bitXor => 7
  | bitAnd => 8
  | shift => 9
  | sum => 10
  | product => 11
  | cast => 12

/-- Whether one precedence is as tight as another or tighter. -/
def isAtLeast (first second : Precedence) : Bool := decide (second.level ≤ first.level)

end Precedence

/-- The operators between two operands with their spelling.  One that begins another stands behind
it. -/
def operators : List (String × Precedence) :=
  [("+=", .assignment), ("-=", .assignment), ("*=", .assignment), ("/=", .assignment),
    ("%=", .assignment), ("^=", .assignment), ("&=", .assignment), ("|=", .assignment),
    ("<<=", .assignment), (">>=", .assignment), ("&&", .conjunction), ("||", .disjunction),
    ("<<", .shift), (">>", .shift), ("==", .comparison), ("<=", .comparison), ("!=", .comparison),
    (">=", .comparison), ("+", .sum), ("-", .sum), ("*", .product), ("/", .product),
    ("%", .product), ("^", .bitXor), ("&", .bitAnd), ("|", .bitOr), ("<", .comparison),
    (">", .comparison)]

/-- The operator that code begins with. -/
def operator? (code : Code) : Option (String × Precedence) :=
  operators.find? fun entry => code.begins (.signs entry.1)

/-- Whether code begins with the sign of an assignment.  That of an arrow is none. -/
def beginsAssignment (code : Code) : Bool :=
  code.begins (.signs "=") && !code.begins (.signs "=>")

/-- How tightly the operator binds that code begins with, where ranges and casts count as well. -/
def precedenceAhead (code : Code) : Precedence :=
  match operator? code with
  | some (_, precedence) => precedence
  | none =>
      if beginsAssignment code then .assignment
      else if code.begins (.signs "..") then .range
      else if code.begins (.word "as") then .cast
      else .loosest

end Storyboard.Code
