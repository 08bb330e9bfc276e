import Storyboard.Code.Refusal

/-!
# Faults of markup

What can be wrong with markup, with the wording.  The first five are found while markup is read, the
others while it is expanded.
-/

namespace Storyboard.Markup

/-- The names of the attributes that an element can have. -/
def attributeNames : List String := ["id", "text", "title", "style", "onclick"]

/-- What is wrong with markup. -/
inductive Fault where
  | valueExpected (atEnd : Bool)
  | unknownAttribute (name : String)
  /-- What is to be done on a click is given as text. -/
  | textOnClick
  /-- The tag that closes an element is not the one that opened it. -/
  | mismatchedTag (opened closed : String)
  /-- Inside an element there is something else than elements. -/
  | childExpected (atEnd : Bool)
  | titleRequired
  | childless (tag : String)
  | noElements
  deriving DecidableEq, Repr

def Fault.message : Fault → String
  | .valueExpected atEnd =>
      Code.atPlace atEnd "expected a string literal or a `\x7bexpression\x7d` attribute value"
  | .unknownAttribute name =>
      "unknown attribute `" ++ name ++ "`; expected one of: " ++ ", ".intercalate attributeNames
  | .textOnClick => "`onclick` takes a `\x7bclosure\x7d`, not a string"
  | .mismatchedTag opened closed =>
      "mismatched closing tag: expected `</" ++ opened ++ ">`, found `</" ++ closed ++ ">`"
  | .childExpected atEnd =>
      Code.atPlace atEnd "expected `<` to start a child element or `</` to close the parent"
  | .titleRequired => "`<screen>` requires a `title` attribute"
  | .childless tag => "`<" ++ tag ++ ">` cannot contain child elements"
  | .noElements => "view! macro requires at least one element"

/-- Why code is refused as markup or as a part of it. -/
abbrev Refusal := Code.Refusal Fault

end Storyboard.Markup
