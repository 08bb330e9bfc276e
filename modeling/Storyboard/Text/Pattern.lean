/-!
# Character patterns

Regular patterns over characters, and the longest prefix of a text that fits one.  A pattern is
matched by stepping it: after a character has been read, `step` is the pattern for what may follow.
`Matches` says, without stepping, which texts fit a pattern.
-/

namespace Storyboard.Text

/-- A regular pattern. -/
inductive Pattern where
  | nothing
  | empty
  | one (fits : Char → Bool)
  /-- Fits a text of the first pattern followed by one of the second. -/
  | seq (first second : Pattern)
  | either (first second : Pattern)
  /-- Fits any number of texts of a pattern, one after the other. -/
  | many (inner : Pattern)

namespace Pattern

/-- The texts that fit a pattern. -/
inductive Matches : Pattern → List Char → Prop
  | empty : Matches .empty []
  | one {fits : Char → Bool} {c : Char} (h : fits c = true) : Matches (.one fits) [c]
  | seq {first second : Pattern} {s t : List Char} (hs : Matches first s) (ht : Matches second t) :
      Matches (.seq first second) (s ++ t)
  | left {first second : Pattern} {s : List Char} (h : Matches first s) :
      Matches (.either first second) s
  | right {first second : Pattern} {s : List Char} (h : Matches second s) :
      Matches (.either first second) s
  | done {inner : Pattern} : Matches (.many inner) []
  | more {inner : Pattern} {s t : List Char} (hs : Matches inner s)
      (ht : Matches (.many inner) t) : Matches (.many inner) (s ++ t)

/-! ## Building patterns -/

/-- Exactly the given character. -/
def char (c : Char) : Pattern := .one (· == c)

def word : List Char → Pattern
  | [] => .empty
  | c :: rest => .seq (char c) (word rest)

def optional (inner : Pattern) : Pattern := .either inner .empty

/-- One or more texts of the pattern. -/
def some (inner : Pattern) : Pattern := .seq inner (.many inner)

/-- At most the given number of texts of the pattern. -/
def atMost (inner : Pattern) : Nat → Pattern
  | 0 => .empty
  | count + 1 => optional (.seq inner (atMost inner count))

/-- At least `least` texts of the pattern and at most `extra` more. -/
def between (inner : Pattern) (extra : Nat) : Nat → Pattern
  | 0 => atMost inner extra
  | least + 1 => .seq inner (between inner extra least)

/-! ## Stepping -/

/-- Whether the empty text fits. -/
def nullable : Pattern → Bool
  | .nothing => false
  | .empty => true
  | .one _ => false
  | .seq first second => first.nullable && second.nullable
  | .either first second => first.nullable || second.nullable
  | .many _ => true

/-- `seq`, without parts that contribute nothing. -/
def andThen : Pattern → Pattern → Pattern
  | .nothing, _ => .nothing
  | .empty, second => second
  | first, second => .seq first second

/-- `either`, without a side that fits nothing. -/
def orElse : Pattern → Pattern → Pattern
  | .nothing, second => second
  | first, .nothing => first
  | first, second => .either first second

/-- The pattern for what may follow the character `c`. -/
def step (c : Char) : Pattern → Pattern
  | .nothing => .nothing
  | .empty => .nothing
  | .one fits => if fits c then .empty else .nothing
  | .seq first second =>
      if first.nullable then orElse (andThen (step c first) second) (step c second)
      else andThen (step c first) second
  | .either first second => orElse (step c first) (step c second)
  | .many inner => andThen (step c inner) (.many inner)

/-- Whether the pattern is the one that fits no text. -/
def isNothing : Pattern → Bool
  | .nothing => true
  | _ => false

/-- The length of the longest prefix that fits the pattern, if a prefix does. -/
def longest? (pattern : Pattern) : List Char → Option Nat
  | [] => if pattern.nullable then .some 0 else none
  | c :: rest =>
      if pattern.isNothing then none
      else
        match longest? (pattern.step c) rest with
        | .some length => .some (length + 1)
        | none => if pattern.nullable then .some 0 else none

end Pattern

end Storyboard.Text
