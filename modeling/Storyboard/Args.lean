import Storyboard.Config
import Storyboard.Node

/-!
# Arguments of a declaration

A node is declared by a text alone or by a set of attributes.  Either way the result is a whole
node: a text alone also gives a widget its id, attributes are taken as they are.
-/

namespace Storyboard

variable {κ : Type}

/-- The attributes given to a declaration; what is not given is left empty. -/
structure Attributes (κ : Type) where
  id : Option String := none
  text : Option String := none
  style : Option Style := none
  onClick : Option κ := none

/-- What a declaration is given. -/
inductive Args (κ : Type) where
  | text (value : String)
  | attributes (given : Attributes κ)

/-- No attributes at all. -/
def Args.none : Args κ := .attributes {}

namespace Node

/-- The node that a declaration of the given kind makes. -/
def ofArgs (kind : NodeKind) (convention : IdConvention) : Args κ → Node κ
  | .text value =>
      match kind with
      | .screen => { kind := .screen, text := value }
      | .widget widget =>
          { kind := .widget widget, id := convention.derive widget.name value, text := value }
  | .attributes given =>
      { kind := kind, id := given.id.getD "", text := given.text.getD "",
        style := given.style.getD .empty, onClick := given.onClick }

end Node

def Attributes.inspect (given : Attributes κ) : Text.Inspect :=
  .record "Attributes"
    [("id", .optional (given.id.map .text)), ("text", .optional (given.text.map .text)),
      ("style", .optional (given.style.map Style.inspect)),
      ("onclick", Node.inspectOnClick given.onClick)] false

def Args.inspect : Args κ → Text.Inspect
  | .text value => .applied "Text" [.text value]
  | .attributes given => .applied "Attributes" [given.inspect]

end Storyboard
