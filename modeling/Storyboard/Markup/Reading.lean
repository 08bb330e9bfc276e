import Storyboard.Code.Expression
import Storyboard.Markup.Element

/-!
# Reading elements

Elements are read in one pass over the code, with the elements that are still open, the innermost
first.  Behind an expression in curly brackets other code may stand at first; that there is none is
only asked when all else has been read.  What counts as an expression is up to the reader of
expressions that all readers here are given.
-/

namespace Storyboard.Markup

open Storyboard.Code

/-- An element of which the opening tag has been read, with the children read so far. -/
structure Open where
  tag : String
  attributes : List Attribute
  children : List Element

/-- The open element with one more child. -/
def Open.push (opened : Open) (child : Element) : Open :=
  { opened with children := opened.children ++ [child] }

/-- The open element as it is when its closing tag has been read. -/
def Open.close (opened : Open) : Element :=
  { tag := opened.tag, attributes := opened.attributes, children := opened.children,
    isSelfClosing := false }

section

variable (reader : ExpressionReader)

mutual

/-- Goes on inside an opening tag.  The result is the outermost element and the code behind it. -/
def readTag (outer : List Open) (tag : String) (attributes : List Attribute) :
    Code → Except Refusal (Element × Code)
  | .token (.sign '/' _) rest =>
      match rest with
      | .token (.sign '>' _) rest =>
          let element : Element :=
            { tag := tag, attributes := attributes, children := [], isSelfClosing := true }
          match outer with
          | [] => .ok (element, rest)
          | parent :: outer => readContents outer (parent.push element) rest
      | _ => .error .malformed
  | .token (.sign '>' _) rest => readContents outer ⟨tag, attributes, []⟩ rest
  | .token (.word name) rest =>
      if !isName name then .error .malformed
      else if !attributeNames.contains name then .error (.fault (.unknownAttribute name))
      else
        match rest with
        | .token (.sign '=' _) rest =>
            match rest with
            | .token (.text contents) rest =>
                if name = "onclick" then .error (.fault .textOnClick)
                else readTag outer tag (attributes ++ [⟨name, .text contents⟩]) rest
            | .group .curly inner rest =>
                match reader inner with
                | some found =>
                    let isWhole := found.isWhole && found.behind.isDone
                    readTag outer tag (attributes ++ [⟨name, .expression found.code isWhole⟩]) rest
                | none => .error .malformed
            | rest => .error (.fault (.valueExpected rest.isDone))
        | _ => .error .malformed
  | _ => .error .malformed

/-- Goes on inside an open element.  The result is the outermost element and the code behind it. -/
def readContents (outer : List Open) (opened : Open) : Code → Except Refusal (Element × Code)
  | .token (.sign '<' _) rest =>
      match rest with
      | .token (.sign '/' _) rest =>
          match rest with
          | .token (.word closed) rest =>
              if !isName closed then .error .malformed
              else if closed ≠ opened.tag then
                .error (.fault (.mismatchedTag opened.tag closed))
              else
                match rest with
                | .token (.sign '>' _) rest =>
                    match outer with
                    | [] => .ok (opened.close, rest)
                    | parent :: outer => readContents outer (parent.push opened.close) rest
                | _ => .error .malformed
          | _ => .error .malformed
      | .token (.word tag) rest =>
          if isName tag then readTag (opened :: outer) tag [] rest else .error .malformed
      | _ => .error .malformed
  | code => .error (.fault (.childExpected code.isDone))

end

/-- The element at the beginning of code, and the code behind it. -/
def readElement : Code → Except Refusal (Element × Code)
  | .token (.sign '<' _) (.token (.word tag) rest) =>
      if isName tag then readTag reader [] tag [] rest else .error .malformed
  | _ => .error .malformed

end

/-! ## An element is not empty -/

section

variable {reader : ExpressionReader}

/-- The code behind an element is smaller than the code that the element was read from. -/
theorem size_reading :
    (∀ (outer : List Open) (tag : String) (attributes : List Attribute) (code : Code),
      ∀ read, readTag reader outer tag attributes code = .ok read → read.2.size < code.size)
    ∧ ∀ (outer : List Open) (opened : Open) (code : Code),
      ∀ read, readContents reader outer opened code = .ok read → read.2.size < code.size := by
  apply readTag.mutual_induct reader
  all_goals
    intros
    rename_i h
    first
    | rw [readTag.eq_def] at h
    | rw [readContents.eq_def] at h
    grind [Code.size]

theorem size_readElement {code rest : Code} {element : Element}
    (h : readElement reader code = .ok (element, rest)) : rest.size < code.size := by
  unfold readElement at h
  split at h
  · split at h
    · have := size_reading.1 _ _ _ _ _ h
      simp only [Code.size] at this ⊢
      omega
    · cases h
  · cases h

end

/-! ## Whole code -/

section

variable (reader : ExpressionReader)

/-- Reads code that is a list of elements. -/
def readElements (code : Code) : Except Refusal (List Element) :=
  match code with
  | .done => .ok []
  | code =>
      match _h : readElement reader code with
      | .error refusal => .error refusal
      | .ok (element, rest) => do return element :: (← readElements rest)
termination_by code.size
decreasing_by exact size_readElement _h

/-- Reads code that is one whole element. -/
def readWhole (code : Code) : Except Refusal Element :=
  match readElement reader code with
  | .error refusal => .error refusal
  | .ok (element, .done) => if element.isWhole then .ok element else .error .malformed
  | .ok _ => .error .malformed

end

end Storyboard.Markup
