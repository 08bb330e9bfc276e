import Storyboard.Sheet.Value

/-!
# Declarations in a style sheet

A style sheet is a list of declarations that end in semicolons: the name of a property with dashes,
a colon and values.  Stray semicolons are skipped, and the last semicolon may be missing.
-/

namespace Storyboard.Sheet

open Storyboard.Code

/-- A property with its values. -/
structure Declaration where
  property : String
  values : List Value
  deriving DecidableEq, Repr

/-- The text of the values. -/
def Declaration.value (declaration : Declaration) : String := Value.join declaration.values

/-- The words that the name of a property goes on with after dashes: the whole name, and the code
behind it.  Each dash has to be followed by a name. -/
def propertyFrom? (name : String) : Code → Option (String × Code)
  | .token (.sign '-' _) rest =>
      match rest with
      | .token (.word next) rest =>
          if isName next then propertyFrom? (name ++ "-" ++ next) rest else none
      | _ => none
  | code => some (name, code)

/-- The name of a property, and the code behind the colon after it. -/
def property? : Code → Option (String × Code)
  | .token (.word name) rest =>
      if isName name then
        match propertyFrom? name rest with
        | some (property, .token (.sign ':' _) rest) => some (property, rest)
        | _ => none
      else none
  | _ => none

/-- The code behind a semicolon, if there is one. -/
def afterSemicolon : Code → Code
  | .token (.sign ';' _) rest => rest
  | code => code

/-- The declaration at the beginning of code, and the code behind its semicolon. -/
def readDeclaration (code : Code) : Except Refusal (Declaration × Code) :=
  match property? code with
  | none => .error .malformed
  | some (property, rest) =>
      match readValues rest with
      | .error refusal => .error refusal
      | .ok ([], _) => .error (.fault (.noValue property))
      | .ok (values, rest) => .ok (⟨property, values⟩, afterSemicolon rest)

/-! ## A declaration is not empty -/

theorem size_propertyFrom? {name property : String} {code rest : Code}
    (h : propertyFrom? name code = some (property, rest)) : rest.size ≤ code.size := by
  fun_induction propertyFrom? name code with
  | case1 name _ next rest _ ih =>
      have := ih h
      simp only [Code.size]
      omega
  | case2 => cases h
  | case3 => cases h
  | case4 => cases h; exact Nat.le_refl _

theorem size_property? {property : String} {code rest : Code}
    (h : property? code = some (property, rest)) : rest.size < code.size := by
  unfold property? at h
  split at h
  · split at h
    · split at h
      · rename_i hproperty
        cases h
        have := size_propertyFrom? hproperty
        simp only [Code.size] at this ⊢
        omega
      · cases h
    · cases h
  · cases h

theorem size_readValues {code rest : Code} {values : List Value}
    (h : readValues code = .ok (values, rest)) : rest.size ≤ code.size := by
  fun_induction readValues code generalizing values with
  | case1 => cases h; exact Nat.le_refl _
  | case2 => cases h; exact Nat.le_refl _
  | case3 => cases h
  | case4 code _ _ found behind hpiece ih =>
      have := size_piece hpiece
      cases hvalue : found.value with
      | error refusal => simp [hvalue, bind, Except.bind] at h
      | ok value =>
          cases hmore : readValues behind with
          | error refusal => simp [hvalue, hmore, bind, Except.bind] at h
          | ok result =>
              obtain ⟨more, last⟩ := result
              simp only [hvalue, hmore, bind, Except.bind, pure, Except.pure, Except.ok.injEq,
                Prod.mk.injEq] at h
              obtain ⟨-, rfl⟩ := h
              have := ih hmore
              omega

theorem size_afterSemicolon (code : Code) : (afterSemicolon code).size ≤ code.size := by
  unfold afterSemicolon
  split
  · simp [Code.size]
  · exact Nat.le_refl _

theorem size_readDeclaration {declaration : Declaration} {code rest : Code}
    (h : readDeclaration code = .ok (declaration, rest)) : rest.size < code.size := by
  unfold readDeclaration at h
  split at h
  · cases h
  · rename_i hproperty
    have := size_property? hproperty
    split at h
    · cases h
    · cases h
    · rename_i behind _ hvalues
      cases h
      have := size_readValues hvalues
      have := size_afterSemicolon behind
      omega

/-! ## All declarations -/

/-- The declarations of a style sheet. -/
def readDeclarations (code : Code) : Except Refusal (List Declaration) :=
  match code with
  | .done => .ok []
  | .token (.sign ';' _) rest => readDeclarations rest
  | code =>
      match _h : readDeclaration code with
      | .error refusal => .error refusal
      | .ok (declaration, rest) => do return declaration :: (← readDeclarations rest)
termination_by code.size
decreasing_by
  · simp [Code.size]
  · exact size_readDeclaration _h

end Storyboard.Sheet
