import Storyboard.Proofs.Style.Declaration
import Storyboard.Sheet.Declaration

/-!
# Values made of lexemes

The values of a sheet and the value of a style declaration are written with different rules for the
spaces: a sheet sets each value apart unless it clings to the one before it, and style text sets
each lexeme apart unless one of the two is a bracket or a comma.  A `Wording` is a list of values
whose parts are lexemes of style text.  Its text is the same by both rules
(`Wording.joined_lexemes`), so that a sheet of wordings declares what style declarations do
(`Wording.entry_declaration`).
-/

namespace Storyboard.Sheet

open Storyboard.Style (Lexeme TokenKind joined lastKind needsSpace)

/-- The kinds of the lexemes that are values of their own. -/
def isWordKind : TokenKind → Bool
  | .openingParenthesis | .closingParenthesis | .colon | .semicolon | .comma => false
  | _ => true

/-- Values made of lexemes: words, and calls with commas among their arguments. -/
inductive Wording where
  | done
  | word (lexeme : Lexeme) (isWord : isWordKind lexeme.kind = true) (rest : Wording)
  | comma (rest : Wording)
  | call (name : Lexeme) (isName : name.kind = .identifier) (arguments rest : Wording)

namespace Wording

/-- The values of a sheet. -/
def values : Wording → List Value
  | done => []
  | word lexeme _ rest => .plain (String.ofList lexeme.text) :: rest.values
  | comma rest => .comma :: rest.values
  | call name _ arguments rest => .call (String.ofList name.text) arguments.values :: rest.values

/-- The lexemes of style text. -/
def lexemes : Wording → List Lexeme
  | done => []
  | word lexeme _ rest => lexeme :: rest.lexemes
  | comma rest => Style.comma :: rest.lexemes
  | call name _ arguments rest =>
      name :: Style.opening :: (arguments.lexemes ++ Style.closing :: rest.lexemes)

/-- Values as they are written behind something, or at the beginning. -/
def spelled (isBehind : Bool) (values : List Value) : String :=
  if isBehind then String.join (values.map Value.spaced) else Value.join values

theorem spelled_cons (isBehind : Bool) (value : Value) (rest : List Value) :
    spelled isBehind (value :: rest) =
      (if isBehind && !value.clings then " " else "") ++ value.text ++ spelled true rest := by
  cases isBehind <;> cases hclings : value.clings <;>
    simp [spelled, Value.join, Value.spaced, hclings, String.join_cons]

/-- Every word is set apart from the lexemes that an identifier is set apart from. -/
theorem needsSpace_of_isWordKind {kind : TokenKind} (h : isWordKind kind = true)
    (last : Option TokenKind) : needsSpace last kind = needsSpace last .identifier := by
  rcases last with _ | last
  · rfl
  · cases last <;> cases kind <;> first | rfl | cases h

/-- A word is set apart from a word. -/
theorem needsSpace_identifier_of_isWordKind {kind : TokenKind} (h : isWordKind kind = true) :
    needsSpace (some kind) .identifier = true := by
  cases kind <;> first | rfl | cases h

theorem needsSpace_mark (last : Option TokenKind) :
    needsSpace last .comma = false ∧ needsSpace last .openingParenthesis = false ∧
      needsSpace last .closingParenthesis = false := by
  rcases last with _ | last
  · decide
  · cases last <;> decide

/-- Spaces stand at the same places by both rules. -/
theorem joined_lexemes (wording : Wording) (last : Option TokenKind) :
    String.ofList (joined last wording.lexemes) =
      spelled (needsSpace last .identifier) wording.values := by
  induction wording generalizing last with
  | done => cases needsSpace last .identifier <;> rfl
  | word lexeme isWord rest ih =>
      rw [lexemes, joined, String.ofList_append, String.ofList_append, Style.ofList_gap, ih,
        needsSpace_of_isWordKind isWord, needsSpace_identifier_of_isWordKind isWord, values,
        spelled_cons]
      simp [Value.plain]
  | comma rest ih =>
      have hgap : Style.gap last Style.comma.kind = [] := by
        rw [Style.gap, if_neg]
        simp [Style.comma, needsSpace_mark]
      have hrest := ih (some .comma)
      rw [lexemes, joined, hgap, values, spelled_cons, String.ofList_append,
        show Style.comma.kind = .comma from rfl, hrest]
      simp [Value.comma, Style.comma, needsSpace]
  | call name isName arguments rest ihArguments ihRest =>
      -- the marks have no space before them, and none stands behind the opening one
      have hmark (before : Option TokenKind) (mark : Lexeme)
          (hmark : mark.kind = .openingParenthesis ∨ mark.kind = .closingParenthesis) :
          Style.gap before mark.kind = [] := by
        rw [Style.gap, if_neg]
        rcases hmark with hkind | hkind <;> simp [hkind, needsSpace_mark]
      have harguments : String.ofList (joined (some .openingParenthesis) arguments.lexemes) =
          Value.join arguments.values := ihArguments (some .openingParenthesis)
      have hrest : String.ofList (joined (some .closingParenthesis) rest.lexemes) =
          spelled true rest.values := ihRest (some .closingParenthesis)
      have hjoined : joined last (call name isName arguments rest).lexemes =
          Style.gap last .identifier ++ (name.text ++ ('(' ::
            (joined (some .openingParenthesis) arguments.lexemes ++ (')' ::
              joined (some .closingParenthesis) rest.lexemes)))) := by
        rw [lexemes, joined, joined, Style.joined_append, joined,
          hmark _ Style.opening (Or.inl rfl),
          hmark _ Style.closing (Or.inr rfl), isName]
        simp [Style.opening, Style.closing]
      rw [hjoined, values, spelled_cons]
      simp only [String.ofList_append, String.ofList_cons, Style.ofList_gap, harguments, hrest]
      simp [Value.call, Value.plain, String.append_assoc]

/-! ## Declarations -/

theorem inValue_of_isWordKind {lexeme : Lexeme} (h : isWordKind lexeme.kind = true) :
    lexeme.InValue := by
  constructor <;> intro hkind <;> rw [hkind] at h <;> cases h

/-- Neither colons nor semicolons stand in a wording. -/
theorem inValue (wording : Wording) : ∀ lexeme ∈ wording.lexemes, lexeme.InValue := by
  induction wording with
  | done => simp [lexemes]
  | word lexeme isWord rest ih =>
      exact List.forall_mem_cons.mpr ⟨inValue_of_isWordKind isWord, ih⟩
  | comma rest ih =>
      have hcomma : Style.comma.InValue := by
        constructor <;> decide
      exact List.forall_mem_cons.mpr ⟨hcomma, ih⟩
  | call name isName arguments rest ihArguments ihRest =>
      have hname : name.InValue := inValue_of_isWordKind (by rw [isName]; rfl)
      have hopening : Style.opening.InValue := by
        constructor <;> decide
      have hclosing : Style.closing.InValue := by
        constructor <;> decide
      simp only [lexemes, List.forall_mem_cons, List.forall_mem_append]
      exact ⟨hname, hopening, ihArguments, hclosing, ihRest⟩

theorem lexemes_ne_nil {wording : Wording} (h : wording ≠ .done) : wording.lexemes ≠ [] := by
  cases wording with
  | done => exact absurd rfl h
  | word | comma | call => simp [lexemes]

theorem values_ne_nil {wording : Wording} (h : wording ≠ .done) : wording.values ≠ [] := by
  cases wording with
  | done => exact absurd rfl h
  | word | comma | call => simp [values]

/-- The declaration of a property whose value is a wording. -/
def declaration (name : Lexeme) (isName : name.kind = .identifier) (wording : Wording)
    (h : wording ≠ .done) : Style.Declaration where
  name := name
  value := wording.lexemes
  name_kind := isName
  value_ne_nil := lexemes_ne_nil h
  inValue := wording.inValue

/-- The declaration sets the property to the text that the sheet writes. -/
theorem entry_declaration {name : Lexeme} (isName : name.kind = .identifier) {wording : Wording}
    (h : wording ≠ .done) :
    (wording.declaration name isName h).entry =
      (String.ofList name.text, Value.join wording.values) := by
  have hjoined : String.ofList (joined none wording.lexemes) = Value.join wording.values :=
    joined_lexemes wording none
  rw [Style.Declaration.entry, declaration, hjoined]

end Wording

end Storyboard.Sheet
