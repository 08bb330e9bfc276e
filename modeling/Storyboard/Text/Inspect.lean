import Storyboard.Text.Quoted

/-!
# Inspection form of values

A one-line text that shows a value with the names of its parts: `Name("x")`, `Name { field: 1 }`,
lists in square brackets and maps in braces.  Texts are shown quoted.
-/

namespace Storyboard.Text

/-- What a value looks like when it is laid open for inspection. -/
inductive Inspect where
  /-- A bare word, such as a name or a number. -/
  | word (spelling : String)
  | text (value : String)
  /-- A name applied to values in parentheses. -/
  | applied (name : String) (parts : List Inspect)
  /-- A name with labelled fields; a partial record says that it has more than it shows. -/
  | record (name : String) (fields : List (String × Inspect)) (isPartial : Bool)
  | list (items : List Inspect)
  | pairs (entries : List (String × String))

namespace Inspect

def optional (value : Option Inspect) : Inspect :=
  match value with
  | none => .word "None"
  | some part => .applied "Some" [part]

def bool (value : Bool) : Inspect :=
  .word (if value then "true" else "false")

mutual

/-- The one-line text of a value. -/
def render : Inspect → String
  | .word spelling => spelling
  | .text value => quoted value
  | .applied name parts => name ++ "(" ++ ", ".intercalate (renderAll parts) ++ ")"
  | .record name fields isPartial =>
      name ++ " \x7b "
        ++ ", ".intercalate (renderFields fields ++ if isPartial then [".."] else []) ++ " \x7d"
  | .list items => "[" ++ ", ".intercalate (renderAll items) ++ "]"
  | .pairs entries =>
      "\x7b"
        ++ ", ".intercalate (entries.map fun (key, value) => quoted key ++ ": " ++ quoted value)
        ++ "\x7d"

/-- The one-line texts of several values. -/
def renderAll : List Inspect → List String
  | [] => []
  | item :: rest => render item :: renderAll rest

/-- The one-line texts of labelled fields. -/
def renderFields : List (String × Inspect) → List String
  | [] => []
  | (label, item) :: rest => (label ++ ": " ++ render item) :: renderFields rest

end

end Inspect

end Storyboard.Text
