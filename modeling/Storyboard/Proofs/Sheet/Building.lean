import Storyboard.Sheet.Expansion
import Storyboard.Style.Basic

/-!
# What a sheet builds

A sheet expands to code, and it is that code that makes a style when it is run.  `built?` runs code
of this form: a new style, and then one call after the other that sets a property.  What a sheet
expands to always has the form, and it builds the style of the declarations (`built?_expansion`).
-/

namespace Storyboard.Sheet

open Storyboard.Code

/-- The style that calls make of a style, if the code is made of calls that set properties. -/
def withProperties? (style : Style) : Code → Option Style
  | .done => some style
  | .token (.sign '.' _) (.token (.word "with") (.group .round
      (.token (.text property) (.token (.sign ',' _) (.token (.text value) .done))) rest)) =>
      withProperties? (style.set property value) rest
  | _ => none

/-- The style that code builds, if it is a new style with properties. -/
def built? : Code → Option Style
  | .token (.sign ':' true) (.token (.sign ':' _) (.token (.word "workstation")
      (.token (.sign ':' true) (.token (.sign ':' _) (.token (.word "Style")
        (.token (.sign ':' true) (.token (.sign ':' _) (.token (.word "new")
          (.group .round .done rest))))))))) => withProperties? .empty rest
  | _ => none

/-- A property with its value. -/
def Declaration.entry (declaration : Declaration) : String × String :=
  (declaration.property, declaration.value)

/-- The style of declarations. -/
def styleOf (declarations : List Declaration) : Style :=
  .ofList (declarations.map Declaration.entry)

theorem withProperties?_additions (style : Style) (declarations : List Declaration) :
    withProperties? style (concat (declarations.map addition)) =
      some ((declarations.map Declaration.entry).foldl
        (fun style (property, value) => style.set property value) style) := by
  induction declarations generalizing style with
  | nil => rfl
  | cons declaration declarations ih =>
      have hcall : withProperties? style (concat ((declaration :: declarations).map addition)) =
          withProperties? (style.set declaration.property declaration.value)
            (concat (declarations.map addition)) := rfl
      rw [hcall, ih]
      rfl

/-- The code that a sheet expands to builds the style of its declarations. -/
theorem built?_expansion (declarations : List Declaration) :
    built? (expansion declarations) = some (styleOf declarations) := by
  have hnew : built? (expansion declarations) =
      withProperties? .empty (concat (declarations.map addition)) := rfl
  rw [hnew, withProperties?_additions]
  rfl

end Storyboard.Sheet
