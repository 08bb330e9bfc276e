import Storyboard.Code.Basic
import Storyboard.Code.Literal
import Storyboard.Text.Blank

/-!
# Cutting a text into lexemes

Blanks and comments separate lexemes; where one begins, literals are tried first, then signs, then
words.  A documentation comment is not skipped: it stands for an attribute that holds its text.  A
text that is cut and whose brackets match is code.
-/

namespace Storyboard.Code

open Storyboard.Text

/-! ## Comments -/

/-- The characters up to the end of the line. -/
def lineContents : List Char → List Char
  | [] => []
  | '\n' :: _ => []
  | '\r' :: '\n' :: _ => []
  | c :: rest => c :: lineContents rest

/-- The characters up to the end of a comment in which `depth` further ones are open. -/
def blockContents? : Nat → List Char → Option (List Char)
  | _, [] => none
  | depth, '/' :: '*' :: rest => (blockContents? (depth + 1) rest).map (['/', '*'] ++ ·)
  | 0, '*' :: '/' :: _ => some []
  | depth + 1, '*' :: '/' :: rest => (blockContents? depth rest).map (['*', '/'] ++ ·)
  | depth, c :: rest => (blockContents? depth rest).map (c :: ·)

/-- Whether a return stands anywhere but before a newline. -/
def hasLoneReturn : List Char → Bool
  | [] => false
  | '\r' :: '\n' :: rest => hasLoneReturn rest
  | '\r' :: _ => true
  | _ :: rest => hasLoneReturn rest

/-- The attribute that a documentation comment stands for.  An inner one describes what it stands
in. -/
def documentation? (isInner : Bool) (contents : List Char) : Option (List Lexeme) :=
  if hasLoneReturn contents then none
  else
    some ([.token (.sign '#' false)] ++ (if isInner then [.token (.sign '!' false)] else [])
      ++ [.opening .square, .token (.word "doc"), .token (.sign '=' false),
        .token (.text (String.ofList contents)), .closing .square])

/-! ## One lexeme -/

/-- The lexemes that begin somewhere, and how many characters they take besides the first. -/
abbrev Cut := List Lexeme × Nat

/-- Whether a sign begins here.  The slash of a comment is none. -/
def startsSign : List Char → Bool
  | '/' :: '/' :: _ | '/' :: '*' :: _ => false
  | c :: _ => isSign c || c == '\''
  | [] => false

/-- A sign, given what stands behind it. -/
def signCut (c : Char) (rest : List Char) : Cut := ([.token (.sign c (startsSign rest))], 0)

/-- A documentation comment to the end of the line, of which `skipped` characters have been read
besides the first. -/
def lineDocumentation? (isInner : Bool) (skipped : Nat) (input : List Char) : Option Cut :=
  let contents := lineContents input
  (documentation? isInner contents).map (·, contents.length + skipped)

/-- A documentation comment between marks.  The character that makes it one belongs to the marks. -/
def blockDocumentation? (isInner : Bool) (input : List Char) : Option Cut :=
  match blockContents? 0 input with
  | none => none
  | some contents =>
      (documentation? isInner (contents.drop 1)).map (·, contents.length + 3)

/-- What begins with a slash: a comment, a documentation comment or a sign. -/
def slash? : List Char → Option Cut
  | '/' :: '/' :: '/' :: rest => some ([], (lineContents rest).length + 3)
  | '/' :: '/' :: rest => lineDocumentation? false 2 rest
  | '/' :: '!' :: rest => lineDocumentation? true 2 rest
  | '/' :: rest => some ([], (lineContents rest).length + 1)
  | '*' :: '*' :: '/' :: _ => some ([], 3)
  | '*' :: rest =>
      match rest with
      | '*' :: '*' :: _ => (blockContents? 0 rest).map fun contents => ([], contents.length + 3)
      | '*' :: _ => blockDocumentation? false rest
      | '!' :: _ => blockDocumentation? true rest
      | _ => (blockContents? 0 rest).map fun contents => ([], contents.length + 3)
  | rest => some (signCut '/' rest)

/-- What begins with an apostrophe: a character literal, or a label, whose apostrophe is a sign of
its own. -/
def apostrophe? (rest : List Char) : Option Cut :=
  match characterLength? .characters rest with
  | some length =>
      some ([.token (.literal (String.ofList ('\'' :: rest.take length)))], length)
  | none =>
      let isRaw := rest.take 2 == ['r', '#']
      let word := if isRaw then rest.drop 2 else rest
      let length := wordLength word
      let follower := (word.drop length).head?
      if length = 0 || follower == some '\'' || (follower == some '#' && !isRaw) then none
      else some ([.token (.sign '\'' true)], 0)

/-- The words of which no raw form can be made. -/
def neverRaw : List String := ["_", "super", "self", "Self", "crate"]

/-- Beginnings of literals.  Where no literal can be made of what follows, no word begins either. -/
def literalMarks : List String :=
  ["r\"", "r#\"", "r##", "b\"", "b'", "br\"", "br#", "c\"", "cr\"", "cr#"]

/-- The word at the beginning, possibly marked as raw. -/
def word? (input : List Char) : Option Cut :=
  if literalMarks.any fun mark => mark.toList.isPrefixOf input then none
  else
    let isRaw := input.take 2 == ['r', '#']
    let mark := if isRaw then 2 else 0
    let length := wordLength (input.drop mark)
    let spelled := String.ofList ((input.drop mark).take length)
    if length = 0 || (isRaw && neverRaw.contains spelled) then none
    else
      some ([.token (.word (String.ofList (input.take (mark + length))))], mark + length - 1)

/-- A text literal with its contents. -/
def textCut (text : List Char × Nat) : Cut :=
  ([.token (.text (String.ofList text.1))], text.2)

/-- How a literal is spelled that could not be made.  Although it looks like brackets with a comment
between them, it is a literal. -/
def errorSpelling : List Char := "(/*ERROR*/)".toList

/-- The lexemes that begin with `c`. -/
def cut? (c : Char) (rest : List Char) : Option Cut :=
  if errorSpelling.isPrefixOf (c :: rest) then
    some ([.token (.literal (String.ofList errorSpelling))], errorSpelling.length - 1)
  else if blank.contains c || c == '\u200e' || c == '\u200f' then some ([], 0)
  else if c == '/' then slash? rest
  else
    match Bracket.ofOpening? c, Bracket.ofClosing? c with
    | some bracket, _ => some ([.opening bracket], 0)
    | none, some bracket => some ([.closing bracket], 0)
    | none, none =>
        if c == '"' then (textFrom? .characters rest).map textCut
        else if c == '\'' then apostrophe? rest
        else
          match (if c == 'r' then rawText? .characters rest else none), markedLength? (c :: rest),
            numberLength? (c :: rest) with
          | some text, _, _ => some (textCut text)
          | none, some length, _ =>
              some ([.token (.literal (String.ofList ((c :: rest).take length)))], length - 1)
          | none, none, some length =>
              some ([.token (.number (String.ofList ((c :: rest).take length)))], length - 1)
          | none, none, none =>
              if isSign c then some (signCut c rest) else word? (c :: rest)

/-! ## A whole text -/

/-- The lexemes of a text. -/
def lexemesFrom? : List Char → Option (List Lexeme)
  | [] => some []
  | c :: rest =>
      match cut? c rest with
      | none => none
      | some (lexemes, length) => (lexemesFrom? (rest.drop length)).map (lexemes ++ ·)
termination_by input => input.length
decreasing_by
  simp only [List.length_cons, List.length_drop]
  omega

/-- The characters after a byte order mark. -/
def withoutByteOrderMark : List Char → List Char
  | [] => []
  | c :: rest => if c == '\ufeff' then rest else c :: rest

/-- The code that a text is, if it can be cut into lexemes and its brackets match. -/
def read? (input : String) : Option Code :=
  (lexemesFrom? (withoutByteOrderMark input.toList)).bind assemble?

end Storyboard.Code
