import Storyboard.Sheet.Fault
import Storyboard.Text.Hexadecimal
import Storyboard.Text.Quoted

/-!
# Values in a style sheet

A property has a list of values, each made of a few tokens of code: a colour, a text, a number, a
word with dashes, the mark of importance, or a call whose arguments are values and commas.  Blanks
do not count in code, so where one value ends is decided by the tokens alone: a value takes all it
can.
-/

namespace Storyboard.Sheet

open Storyboard.Code

/-- A value as it is written. -/
structure Value where
  text : String
  /-- Whether the value clings to the one before it, with no space between them. -/
  clings : Bool
  deriving DecidableEq, Repr

namespace Value

/-- A value that keeps its distance. -/
def plain (text : String) : Value := ⟨text, false⟩

def comma : Value := ⟨",", true⟩

/-- A value with what separates it from the one before it. -/
def spaced (value : Value) : String := if value.clings then value.text else " " ++ value.text

/-- Values in a row. -/
def join : List Value → String
  | [] => ""
  | first :: rest => first.text ++ String.join (rest.map spaced)

/-- A call with its arguments. -/
def call (name : String) (arguments : List Value) : Value :=
  plain (name ++ "(" ++ join arguments ++ ")")

end Value

/-! ## One value -/

/-- What one value is made of. -/
inductive Piece where
  | plain (text : String)
  /-- A call whose arguments have still to be read. -/
  | call (name : String) (arguments : Code)
  deriving DecidableEq, Repr

/-- The words that a name goes on with after dashes: the whole name, and the code behind it. -/
def dashed (name : String) : Code → String × Code
  | .token (.sign '-' isJoined) (.token (.word next) rest) =>
      if isName next then dashed (name ++ "-" ++ next) rest
      else (name, .token (.sign '-' isJoined) (.token (.word next) rest))
  | code => (name, code)

/-- A colour with given digits. -/
def color (digits : String) (rest : Code) : Except Refusal (Piece × Code) :=
  if digits.toList.all Text.isHexDigit then .ok (.plain ("#" ++ digits), rest)
  else .error (.fault (.notHexadecimal digits rest.isDone))

/-- A colour whose digits begin like a number.  A name right behind them still belongs to them. -/
def colorFrom (digits : String) : Code → Except Refusal (Piece × Code)
  | .token (.word more) rest =>
      if isName more then color (digits ++ more) rest else color digits (.token (.word more) rest)
  | rest => color digits rest

/-- A colour of which the hash has been read. -/
def colorAfterHash : Code → Except Refusal (Piece × Code)
  | .token (.word digits) rest =>
      if isName digits then color digits rest else .error (.fault (.digitsExpected false))
  | .token (.number digits) rest => colorFrom digits rest
  | .token (.sign '-' _) (.token (.number digits) rest) => colorFrom ("-" ++ digits) rest
  | rest => .error (.fault (.digitsExpected rest.isDone))

/-- The mark of importance, of which the exclamation mark has been read. -/
def importance : Code → Except Refusal (Piece × Code)
  | .token (.word spelling) rest =>
      if !isName spelling then .error .malformed
      else if spelling = "important" then .ok (.plain "!important", rest)
      else .error (.fault .importantExpected)
  | _ => .error .malformed

/-- A number that may be negative. -/
def number? : Code → Option (String × Code)
  | .token (.number spelling) rest => some (spelling, rest)
  | .token (.sign '-' _) (.token (.number spelling) rest) => some ("-" ++ spelling, rest)
  | _ => none

/-- A number with the percent sign that may follow it. -/
def percentage (number : String × Code) : Piece × Code :=
  match number with
  | (spelling, .token (.sign '%' _) rest) => (.plain (spelling ++ "%"), rest)
  | (spelling, rest) => (.plain spelling, rest)

/-- A number as a value.  Its sign may stand before a number that is negative already. -/
def numeric? : Code → Option (Piece × Code)
  | .token (.sign '-' _) rest =>
      (number? rest).map fun (spelling, rest) => percentage ("-" ++ spelling, rest)
  | code => (number? code).map percentage

/-- A word with dashes, or a call if a round bracket follows it. -/
def named (name : String) (rest : Code) : Piece × Code :=
  match dashed name rest with
  | (name, .group .round arguments rest) => (.call name arguments, rest)
  | (name, rest) => (.plain name, rest)

/-- The value at the beginning of code, and the code behind it. -/
def piece (code : Code) : Except Refusal (Piece × Code) :=
  match code with
  | .token (.sign '#' _) rest => colorAfterHash rest
  | .token (.sign '!' _) rest => importance rest
  | .token (.text contents) rest => .ok (.plain (Text.quoted contents), rest)
  | .token (.word name) rest =>
      if isName name then .ok (named name rest) else .error (.fault .unexpectedToken)
  | code =>
      match numeric? code with
      | some found => .ok found
      | none => .error (.fault .unexpectedToken)

/-! ## A value is not empty -/

/-- The code in the brackets of a piece, if it is a call. -/
def Piece.arguments : Piece → Code
  | plain _ => .done
  | call _ arguments => arguments

theorem size_dashed (name : String) (code : Code) : (dashed name code).2.size ≤ code.size := by
  fun_induction dashed name code with
  | case1 name next rest _ ih => simp only [Code.size]; omega
  | case2 => simp
  | case3 => simp

theorem size_color {digits : String} {code rest : Code} {found : Piece}
    (h : color digits code = .ok (found, rest)) :
    rest.size ≤ code.size ∧ found.arguments = .done := by
  unfold color at h
  split at h
  · cases h; exact ⟨Nat.le_refl _, rfl⟩
  · cases h

theorem size_colorFrom {digits : String} {code rest : Code} {found : Piece}
    (h : colorFrom digits code = .ok (found, rest)) :
    rest.size ≤ code.size ∧ found.arguments = .done := by
  unfold colorFrom at h
  split at h
  · split at h
    · have := size_color h
      exact ⟨by simp only [Code.size]; omega, this.2⟩
    · exact size_color h
  · exact size_color h

theorem size_colorAfterHash {code rest : Code} {found : Piece}
    (h : colorAfterHash code = .ok (found, rest)) :
    rest.size ≤ code.size ∧ found.arguments = .done := by
  unfold colorAfterHash at h
  split at h
  · split at h
    · have := size_color h
      exact ⟨by simp only [Code.size]; omega, this.2⟩
    · cases h
  · have := size_colorFrom h
    exact ⟨by simp only [Code.size]; omega, this.2⟩
  · have := size_colorFrom h
    exact ⟨by simp only [Code.size]; omega, this.2⟩
  · cases h

theorem size_importance {code rest : Code} {found : Piece}
    (h : importance code = .ok (found, rest)) :
    rest.size ≤ code.size ∧ found.arguments = .done := by
  unfold importance at h
  split at h
  · split at h
    · cases h
    · split at h
      · cases h; exact ⟨by simp [Code.size], rfl⟩
      · cases h
  · cases h

theorem size_number? {code rest : Code} {spelling : String}
    (h : number? code = some (spelling, rest)) : rest.size < code.size := by
  unfold number? at h
  split at h
  · cases h; simp [Code.size]
  · cases h; simp only [Code.size]; omega
  · cases h

theorem size_percentage (number : String × Code) :
    (percentage number).2.size ≤ number.2.size ∧ (percentage number).1.arguments = .done := by
  unfold percentage
  split
  · exact ⟨by simp [Code.size], rfl⟩
  · exact ⟨Nat.le_refl _, rfl⟩

theorem size_numeric? {code rest : Code} {found : Piece}
    (h : numeric? code = some (found, rest)) :
    rest.size < code.size ∧ found.arguments = .done := by
  unfold numeric? at h
  split at h
  · obtain ⟨⟨spelling, behind⟩, hnumber, heq⟩ := Option.map_eq_some_iff.mp h
    have hsize := size_number? hnumber
    have hpercent := size_percentage ("-" ++ spelling, behind)
    simp only [heq] at hpercent
    exact ⟨by simp only [Code.size]; omega, hpercent.2⟩
  · obtain ⟨⟨spelling, behind⟩, hnumber, heq⟩ := Option.map_eq_some_iff.mp h
    have hsize := size_number? hnumber
    have hpercent := size_percentage (spelling, behind)
    simp only [heq] at hpercent
    exact ⟨by omega, hpercent.2⟩

theorem size_named (name : String) (code : Code) :
    (named name code).2.size ≤ code.size
      ∧ (named name code).1.arguments.size ≤ code.size := by
  have hsize := size_dashed name code
  unfold named
  split
  · rename_i h
    simp only [h, Code.size] at hsize
    exact ⟨by simp only; omega, by simp only [Piece.arguments]; omega⟩
  · rename_i h
    simp only [h] at hsize
    exact ⟨hsize, by simp [Piece.arguments, Code.size]⟩

/-- A value takes at least one token, and the code in its brackets is smaller than all of it. -/
theorem size_piece {code rest : Code} {found : Piece} (h : piece code = .ok (found, rest)) :
    rest.size < code.size ∧ found.arguments.size < code.size := by
  unfold piece at h
  split at h
  · have := size_colorAfterHash h
    simp only [Code.size, this.2]; omega
  · have := size_importance h
    simp only [Code.size, this.2]; omega
  · cases h
    simp [Code.size, Piece.arguments]
  · split at h
    · rename_i name behind _
      have hsize := size_named name behind
      rw [Except.ok.inj h] at hsize
      simp only [Code.size] at hsize ⊢
      omega
    · cases h
  · split at h
    · rename_i hnumeric
      cases h
      have := size_numeric? hnumeric
      simp only [this.2, Code.size]; omega
    · cases h

/-! ## Several values -/

/-- The arguments of a call: values and commas up to the end. -/
def readArguments (code : Code) : Except Refusal (List Value) :=
  match code with
  | .done => .ok []
  | .token (.sign ',' _) rest => do return .comma :: (← readArguments rest)
  | code =>
      match _h : piece code with
      | .error refusal => .error refusal
      | .ok (.plain text, rest) => do return .plain text :: (← readArguments rest)
      | .ok (.call name inner, rest) => do
          let arguments ← readArguments inner
          return .call name arguments :: (← readArguments rest)
termination_by code.size
decreasing_by
  · simp [Code.size]
  all_goals
    have := size_piece _h
    simp only [Piece.arguments] at this
    omega

/-- The value that a piece is. -/
def Piece.value : Piece → Except Refusal Value
  | plain text => .ok (.plain text)
  | call name inner => (readArguments inner).map (.call name)

/-- The values of a property: up to a semicolon or the end, and the code behind them. -/
def readValues (code : Code) : Except Refusal (List Value × Code) :=
  match code with
  | .done => .ok ([], .done)
  | .token (.sign ';' isJoined) rest => .ok ([], .token (.sign ';' isJoined) rest)
  | code =>
      match _h : piece code with
      | .error refusal => .error refusal
      | .ok (found, rest) => do
          let value ← found.value
          let (more, behind) ← readValues rest
          return (value :: more, behind)
termination_by code.size
decreasing_by
  have := size_piece _h
  omega

end Storyboard.Sheet
