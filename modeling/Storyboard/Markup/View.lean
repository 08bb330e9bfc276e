import Storyboard.Code.Grammar.Expression
import Storyboard.Code.Phrase
import Storyboard.Markup.Reading

/-!
# Views

A view is an expression for the session in which it is declared, a comma and elements.  It expands
to code that calls the keywords of the session, one statement an element: an element with children
calls the form of its keyword that takes a block, and the block holds the statements of the
children.
-/

namespace Storyboard.Markup

open Storyboard.Code

/-- A session and what is declared in it. -/
structure View where
  target : Code
  elements : List Element

/-- Reads code that is a view. -/
def readView (reader : ExpressionReader) (code : Code) : Except Refusal View :=
  match reader code with
  | some ⟨target, isWhole, .token (.sign ',' _) rest⟩ => do
      let elements ← readElements reader rest
      if isWhole && areWhole elements then return ⟨target, elements⟩ else throw .malformed
  | _ => .error .malformed

/-! ## Arguments of a keyword -/

/-- The value of an attribute as code. -/
def AttributeValue.phrase : AttributeValue → Code
  | .text contents => Code.text contents
  | .expression code _ => code

/-- The call that adds an attribute to a set of attributes. -/
def Attribute.addition (given : Attribute) : Code :=
  if given.name = "style" then
    match given.value with
    | .text contents =>
        method "with_style"
          (path ["workstation", "Style", "parse"] ++ parenthesized (text contents) ++ sign '?')
    | .expression code _ => method "with_style" code
  else if given.name = "onclick" then
    match given.value with
    | .text _ => done
    | .expression code _ => method "with_onclick" code
  else method (if given.name = "id" then "with_id" else "with_text") given.value.phrase

/-- Whether an attribute of that name gives a node its text. -/
def isTextName (name : String) : Bool := name == "text" || name == "title"

/-- A set of attributes to which one is added after the other. -/
def attributeChain (attributes : List Attribute) : Code :=
  path ["workstation", "Attributes", "new"] ++ unit
    ++ concat (attributes.map Attribute.addition)

/-- What a keyword is given for an element: nothing, its text if it has no other attribute, or its
attributes. -/
def argument (attributes : List Attribute) : Code :=
  match attributes with
  | [] => unit
  | [only] => if isTextName only.name then only.value.phrase else attributeChain attributes
  | _ => attributeChain attributes

/-! ## Statements -/

/-- The name that a block gives to the session. -/
def sessionName : String := "__ws"

/-- The declaration of the session with its type. -/
def sessionBinding : Code :=
  word sessionName ++ signs ":&" ++ word "mut" ++ path ["workstation", "Workstation"]

def resultType : Code :=
  signs "->" ++ path ["workstation", "Result"] ++ sign '<' ++ unit ++ sign '>'

/-- Statements that end in success. -/
def block (statements : Code) : Code :=
  braced (statements ++ word "Ok" ++ parenthesized unit)

/-- A block of statements that is given the session. -/
def sessionBlock (statements : Code) : Code :=
  sign '|' ++ sessionBinding ++ sign '|' ++ resultType ++ block statements

/-- A statement that calls a keyword of the session. -/
def statement (keyword : String) (arguments : Code) : Code :=
  word sessionName ++ method keyword arguments ++ signs "?;"

/-- The tags that are keywords of elements without children. -/
def leafTags : List String := ["label", "textbox", "passwordfield", "button", "row"]

/-- The statement of an element, given the statements of its children. -/
def statementFor (tag : String) (attributes : List Attribute) (hasChildren : Bool)
    (children : Code) : Except Fault Code :=
  let given := argument attributes
  let withBlock := given ++ sign ',' ++ sessionBlock children
  if tag = "screen" then
    if !attributes.any fun entry => isTextName entry.name then .error .titleRequired
    else if hasChildren then .ok (statement "screen_with" withBlock)
    else .ok (statement "screen" given)
  else if tag = "table" then
    if hasChildren then .ok (statement "table_with" withBlock) else .ok (statement "table" given)
  else if leafTags.contains tag then
    if hasChildren then .error (.childless tag) else .ok (statement tag given)
  else if hasChildren then .ok (statement "container_with" (text tag ++ sign ',' ++ withBlock))
  else .ok (statement "widget" (text tag ++ sign ',' ++ given))

mutual

/-- The statement of an element.  What is wrong with its children is found first. -/
def Element.statement : Element → Except Fault Code
  | ⟨tag, attributes, children, _⟩ =>
      match statements children with
      | .error fault => .error fault
      | .ok block => statementFor tag attributes (!children.isEmpty) block

def statements : List Element → Except Fault Code
  | [] => .ok done
  | element :: rest => do
      let first ← element.statement
      let more ← statements rest
      return first ++ more

end

/-! ## Expansion -/

/-- The code that runs statements in the session that the target stands for. -/
def program (target body : Code) : Code :=
  braced
    (word "let" ++ sessionBinding ++ sign '=' ++ target ++ sign ';'
      ++ parenthesized (signs "||" ++ resultType ++ block body) ++ unit)

/-- Expands a view. -/
def View.expansion (view : View) : Except Fault Code :=
  if view.elements.isEmpty then .error .noElements
  else (statements view.elements).map (program view.target)

/-- Expands code as a view. -/
def expandCode (reader : ExpressionReader) (code : Code) : Except Refusal Code :=
  match readView reader code with
  | .error refusal => .error refusal
  | .ok view =>
      match view.expansion with
      | .error fault => .error (.fault fault)
      | .ok expanded => .ok expanded

/-- Expands a text as a view. -/
def expandWith (reader : ExpressionReader) (input : String) : Except Refusal Code :=
  readAs (expandCode reader) input

/-! ### By the grammar of expressions -/

def expand (input : String) : Except Refusal Code := expandWith expression? input

/-- Reads a text that is one whole element. -/
def readElementText (input : String) : Except Refusal Element :=
  readAs (readWhole expression?) input

end Storyboard.Markup
