import Mathlib.Data.List.Forall2
import Storyboard.Proofs.Style.Declaration

/-!
# Where tokens stand

The reader of declarations looks at the kinds and the texts of tokens, and at a position only to
name it in a fault.  So two lists of tokens that differ in their positions alone have the same
outcome (`readTokens_alike`): the same style, or the same fault, at the same one of the tokens if at
any.
-/

namespace Storyboard.Style

/-- The tokens differ at most in where they stand. -/
structure Token.Alike (token other : Token) : Prop where
  kind_eq : token.kind = other.kind
  text_eq : token.text = other.text

/-- The same style or the same fault.  A fault that names the position of a token may name two
different positions, if they are those of one and the same of the tokens. -/
inductive SameOutcome (tokens others : List Token) :
    Except StyleError Style → Except StyleError Style → Prop
  | style (style : Style) : SameOutcome tokens others (.ok style) (.ok style)
  | misplaced {token other : Token} (index : Nat) (cause : Misplaced)
      (htoken : tokens[index]? = some token) (hother : others[index]? = some other) :
      SameOutcome tokens others (.error (.misplacedToken token.position cause))
        (.error (.misplacedToken other.position cause))
  | endAfterName (property : String) :
      SameOutcome tokens others (.error (.endAfterName property)) (.error (.endAfterName property))
  | emptyValue (property : String) :
      SameOutcome tokens others (.error (.emptyValue property)) (.error (.emptyValue property))

variable {tokens others : List Token}

theorem SameOutcome.cons {first second : Except StyleError Style} (token other : Token)
    (h : SameOutcome tokens others first second) :
    SameOutcome (token :: tokens) (other :: others) first second := by
  cases h with
  | style style => exact .style style
  | misplaced index cause htoken hother => exact .misplaced (index + 1) cause htoken hother
  | endAfterName property => exact .endAfterName property
  | emptyValue property => exact .emptyValue property

/-- Tokens of the same lexemes differ at most in where they stand. -/
theorem alike_of_is {lexemes : List Lexeme} (htokens : List.Forall₂ Token.Is tokens lexemes)
    (hothers : List.Forall₂ Token.Is others lexemes) : List.Forall₂ Token.Alike tokens others := by
  induction htokens generalizing others with
  | nil =>
      cases hothers
      exact .nil
  | cons htoken _ ih =>
      cases hothers with
      | cons hother hrest =>
          exact .cons ⟨htoken.kind_eq.trans hother.kind_eq.symm,
            htoken.text_eq.trans hother.text_eq.symm⟩ (ih hrest)

/-- Tokens that differ in their positions alone are read alike. -/
theorem readTokens_alike (h : List.Forall₂ Token.Alike tokens others) (stage : Reading)
    (style : Style) :
    SameOutcome tokens others (readTokens stage style tokens) (readTokens stage style others) := by
  induction h generalizing stage style with
  | nil =>
      cases stage with
      | ready => exact .style style
      | named property => exact .endAfterName property
      | within property value last =>
          cases last with
          | none => exact .emptyValue property
          | some kind => exact .style (style.set property value)
  | @cons token other tokens others halike _ ih =>
      obtain ⟨kind, text, position⟩ := token
      obtain ⟨_, _, place⟩ := other
      obtain ⟨rfl, rfl⟩ := halike
      have hmisplaced (cause : Misplaced) :
          SameOutcome (⟨kind, text, position⟩ :: tokens) (⟨kind, text, place⟩ :: others)
            (.error (.misplacedToken position cause)) (.error (.misplacedToken place cause)) :=
        @SameOutcome.misplaced _ _ ⟨kind, text, position⟩ ⟨kind, text, place⟩ 0 cause rfl rfl
      cases stage with
      | ready =>
          cases kind
          case semicolon => exact (ih .ready style).cons _ _
          case identifier => exact (ih (.named text) style).cons _ _
          all_goals exact hmisplaced (.nameExpected text)
      | named property =>
          cases kind
          case colon => exact (ih (.within property "" none) style).cons _ _
          all_goals exact hmisplaced (.colonExpected property text)
      | within property value last =>
          by_cases hcolon : kind = .colon
          · simpa [readTokens, hcolon] using hmisplaced (.colonInValue property)
          by_cases hsemicolon : kind = .semicolon
          · cases last with
            | none => simpa [readTokens, hsemicolon] using .emptyValue property
            | some kind =>
                simpa [readTokens, hsemicolon] using (ih .ready (style.set property value)).cons _ _
          · rw [readTokens_within hcolon hsemicolon, readTokens_within hcolon hsemicolon]
            exact (ih _ style).cons _ _

end Storyboard.Style
