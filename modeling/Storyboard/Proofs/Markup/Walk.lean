import Storyboard.Markup.Element
import Storyboard.Session.Engine

/-!
# Walking markup

What markup means without any code: the elements are walked in document order, and each one declares
a node in the session, with its children inside the block of that node.

Only attributes with texts are looked at.  An expression is code, and means what it means elsewhere.
-/

namespace Storyboard.Markup

/-- The text of an attribute that has one. -/
def Attribute.contents? (given : Attribute) : Option String :=
  match given.value with
  | .text contents => some contents
  | .expression _ _ => none

/-- The texts of the attributes with one of some names, in order. -/
def contentsOf (names : List String) (attributes : List Attribute) : List String :=
  (attributes.filter fun given => names.contains given.name).filterMap Attribute.contents?

/-- The names of the attribute that gives a node its text. -/
def textNames : List String := ["text", "title"]

/-- The attributes that an element declares its node with.  The last of several attributes that say
the same counts, but every style has to be one. -/
def attributesOf (attributes : List Attribute) : Except StyleError (Attributes Callback) :=
  match (contentsOf ["style"] attributes).mapM Style.parse with
  | .error fault => .error fault
  | .ok styles =>
      .ok
        { id := (contentsOf ["id"] attributes).getLast?
          text := (contentsOf textNames attributes).getLast?
          style := styles.getLast? }

/-- The text of an element that says nothing else. -/
def loneText? : List Attribute → Option String
  | [only] => if textNames.contains only.name then only.contents? else none
  | _ => none

/-- What an element declares its node with: nothing, a text alone, or attributes. -/
def argsOf (attributes : List Attribute) : Except Error (Args Callback) :=
  if attributes.isEmpty then .ok .none
  else
    match loneText? attributes with
    | some contents => .ok (.text contents)
    | none => ((attributesOf attributes).mapError .style).map .attributes

/-- The keyword of a tag: that of screens, that of a kind of widget, or that of a custom widget with
the tag for its name. -/
def declare (tag : String) (args : Args Callback) : Act NodeId :=
  if tag = "screen" then Engine.exclusive.screen args
  else Engine.exclusive.widget (.ofName tag) args

/-- The keyword of a tag with a block. -/
def declareWith (tag : String) (args : Args Callback) (body : Act Unit) : Act NodeId :=
  if tag = "screen" then Engine.exclusive.screenBlock args body
  else Engine.exclusive.containerBlock (.ofName tag) args body

mutual

/-- Declares the node of an element, and what is inside the element in the block of the node.  The
attributes are looked at first. -/
def Element.walk : Element → Act Unit
  | ⟨tag, attributes, children, _⟩ => do
      let args ← Act.ofExcept (argsOf attributes)
      let _ ← if children.isEmpty then declare tag args else declareWith tag args (walkAll children)

/-- Declares elements in order.  What fails ends them. -/
def walkAll : List Element → Act Unit
  | [] => pure ()
  | element :: rest => do
      element.walk
      walkAll rest

end

mutual

/-- Whether all attributes of an element and of what is inside it have texts. -/
def Element.isLiteral : Element → Bool
  | ⟨_, attributes, children, _⟩ =>
      attributes.all (·.contents?.isSome) && areLiteral children

/-- Whether all attributes of elements have texts. -/
def areLiteral : List Element → Bool
  | [] => true
  | element :: rest => element.isLiteral && areLiteral rest

end

end Storyboard.Markup
