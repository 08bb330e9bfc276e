import Storyboard.Text.Alphanumeric

/-!
# Configuration of a session

How ids are derived from texts, whether rows need a table, and the title of the application.
-/

namespace Storyboard

/-- How the id of a widget follows from its text when the widget is declared by its text alone. -/
inductive IdConvention where
  /-- The type name and the letters and numbers of the text. -/
  | alphanumeric
  /-- The type name and the text as it is. -/
  | verbatim
  | disabled
  deriving DecidableEq, Inhabited

namespace IdConvention

/-- The id of a widget of type `typeName` declared by `text`. -/
def derive (convention : IdConvention) (typeName text : String) : String :=
  match convention with
  | .alphanumeric =>
      typeName ++ String.ofList (text.toList.filter Text.alphanumeric.contains)
  | .verbatim => typeName ++ text
  | .disabled => ""

def name : IdConvention → String
  | .alphanumeric => "alphanumeric"
  | .verbatim => "verbatim"
  | .disabled => "disabled"

end IdConvention

/-- What a session is set up with. -/
structure Config where
  /-- The title of the application, passed on when it is presented. -/
  title : Option String := none
  convention : IdConvention := .alphanumeric
  /-- Whether a row may only be declared inside an open container. -/
  strictRows : Bool := true
  deriving Inhabited

end Storyboard
