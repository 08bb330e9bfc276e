import Storyboard.Code.Basic
import Storyboard.Markup.Fault
import Storyboard.Text.Inspect

/-!
# Elements

Markup is made of elements, each with a tag, attributes and children.  An attribute has a text or an
expression in curly brackets.
-/

namespace Storyboard.Markup

/-- The value of an attribute. -/
inductive AttributeValue where
  | text (contents : String)
  /-- An expression, and whether nothing has been left over in its curly brackets or inside it. -/
  | expression (code : Code) (isWhole : Bool)
  deriving DecidableEq, Repr

/-- An attribute of an element. -/
structure Attribute where
  name : String
  value : AttributeValue
  deriving DecidableEq, Repr

/-- An element with what is inside it. -/
structure Element where
  tag : String
  attributes : List Attribute
  children : List Element
  /-- Whether the element consists of one tag only. -/
  isSelfClosing : Bool

/-! ## Expressions in elements -/

/-- Whether nothing has been left over in the value. -/
def AttributeValue.isWhole : AttributeValue → Bool
  | .text _ => true
  | .expression _ isWhole => isWhole

mutual

/-- Whether nothing has been left over in the values of an element and of what is inside it. -/
def Element.isWhole : Element → Bool
  | ⟨_, attributes, children, _⟩ => attributes.all (·.value.isWhole) && areWhole children

/-- Whether nothing has been left over in the values of elements. -/
def areWhole : List Element → Bool
  | [] => true
  | element :: rest => element.isWhole && areWhole rest

end

/-! ## Inspection -/

/-- The text that a value shows when it is inspected.  An expression shows one if it is a single
token other than a text. -/
def AttributeValue.shown? : AttributeValue → Option String
  | .text contents => some contents
  | .expression (.token (.text _) _) _ => none
  | .expression (.token head .done) _ => some head.spelling
  | .expression _ _ => none

/-- An attribute laid open for inspection. -/
def Attribute.inspect? (given : Attribute) : Option Text.Inspect :=
  given.value.shown?.map fun shown =>
    .record "Attribute" [("name", .text given.name), ("value", .text shown)] false

mutual

/-- An element laid open for inspection, if all its expressions show a text. -/
def Element.inspect? : Element → Option Text.Inspect
  | ⟨tag, attributes, children, isSelfClosing⟩ => do
      let attributes ← attributes.mapM Attribute.inspect?
      let children ← inspectAll? children
      return .record "Element"
        [("tag", .text tag), ("attrs", .list attributes), ("children", .list children),
          ("self_closing", .bool isSelfClosing)] false

/-- Elements laid open for inspection, if all their expressions show a text. -/
def inspectAll? : List Element → Option (List Text.Inspect)
  | [] => some []
  | element :: rest => do return (← element.inspect?) :: (← inspectAll? rest)

end

end Storyboard.Markup
