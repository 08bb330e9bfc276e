import Storyboard.Proofs.Style.Lexeme

/-!
# Cutting a text into lexemes

`Cuts` says, without positions, into which lexemes a text is cut.  It is what `tokensFrom` computes
from every position (`Cuts.tokensFrom`, `cuts_of_tokensFrom`), and it is built up from the end of
the text: blanks and lexemes may be put in front as long as each lexeme is apart from what follows
it.
-/

namespace Storyboard.Style

open Storyboard.Text

/-- The token has the kind and the text of the lexeme. -/
structure Token.Is (token : Token) (lexeme : Lexeme) : Prop where
  kind_eq : token.kind = lexeme.kind
  text_eq : token.text = String.ofList lexeme.text

/-- The text is cut into the lexemes, blanks left out. -/
inductive Cuts : List Char → List Lexeme → Prop
  | done : Cuts [] []
  | blank {c : Char} {rest : List Char} {lexemes : List Lexeme} (hblank : isBlank c = true)
      (hrest : Cuts rest lexemes) : Cuts (c :: rest) lexemes
  | lexeme {lexeme : Lexeme} {rest : List Char} {lexemes : List Lexeme}
      (hfirst : firstToken? (lexeme.text ++ rest) = some (lexeme.kind, lexeme.text.length))
      (hrest : Cuts rest lexemes) : Cuts (lexeme.text ++ rest) (lexeme :: lexemes)

variable {input rest : List Char} {lexemes : List Lexeme} {lexeme : Lexeme}

/-! ## Where a lexeme begins -/

theorem mem_blanks_of_isBlank {c : Char} (h : isBlank c = true) : c ∈ blanks := by
  simpa [isBlank, blanks, or_assoc] using h

theorem Lexeme.isBlank_eq_false {c : Char} (h : lexeme.text = c :: rest) : isBlank c = false := by
  rw [Bool.eq_false_iff]
  intro hblank
  have hc : c ∈ blanks := mem_blanks_of_isBlank hblank
  have hform := lexeme.form
  rw [h] at hform
  generalize htext : c :: rest = text at hform
  -- no form begins with a blank
  cases hform with
  | @mark d hmark =>
      have hdisjoint : ∀ c ∈ blanks, c ∉ marks := by simp [blanks, marks]
      obtain ⟨rfl, -⟩ := List.cons.inj htext
      exact hdisjoint c hc hmark
  | @quoted quote body hquote hbody =>
      have hdisjoint : ∀ c ∈ blanks, c ∉ quotes := by simp [blanks, quotes]
      obtain ⟨rfl, -⟩ := List.cons.inj htext
      exact hdisjoint c hc hquote
  | plain hplain =>
      subst htext
      exact hplain c List.mem_cons_self (List.mem_append_right (marks ++ quotes) hc)

/-! ## Cutting is reading tokens -/

/-- One step at a character that is not blank, with the lexeme split off. -/
theorem tokensFrom_append (position : Nat)
    (hfirst : firstToken? (lexeme.text ++ rest) = some (lexeme.kind, lexeme.text.length)) :
    tokensFrom position (lexeme.text ++ rest) =
      (tokensFrom (position + byteLength lexeme.text) rest).map
        (⟨lexeme.kind, String.ofList lexeme.text, position⟩ :: ·) := by
  cases htext : lexeme.text with
  | nil => exact absurd htext lexeme.nonempty
  | cons c body =>
      have hblank : ¬ isBlank c = true := by
        rw [lexeme.isBlank_eq_false htext]
        exact Bool.false_ne_true
      rw [htext, List.cons_append, List.length_cons] at hfirst
      rw [List.cons_append, tokensFrom, if_neg hblank, hfirst]
      simp only [List.take_left, List.drop_left]
      cases tokensFrom (position + byteLength (c :: body)) rest with
      | error fault => rfl
      | ok tokens => rfl

theorem Cuts.tokensFrom (h : Cuts input lexemes) (position : Nat) :
    ∃ tokens, Style.tokensFrom position input = .ok tokens ∧
      List.Forall₂ Token.Is tokens lexemes := by
  induction h generalizing position with
  | done =>
      refine ⟨[], ?_, .nil⟩
      rw [Style.tokensFrom]
  | @blank c rest lexemes hblank hrest ih =>
      obtain ⟨tokens, htokens, hall⟩ := ih (position + c.utf8Size)
      refine ⟨tokens, ?_, hall⟩
      rw [Style.tokensFrom, if_pos hblank, htokens]
  | @lexeme lexeme rest lexemes hfirst hrest ih =>
      obtain ⟨tokens, htokens, hall⟩ := ih (position + byteLength lexeme.text)
      refine ⟨⟨lexeme.kind, String.ofList lexeme.text, position⟩ :: tokens, ?_, ?_⟩
      · rw [tokensFrom_append position hfirst, htokens]
        rfl
      · exact .cons ⟨rfl, rfl⟩ hall

/-- Every text that is read as tokens is cut into lexemes that are the same. -/
theorem cuts_of_tokensFrom {position : Nat} {tokens : List Token}
    (h : tokensFrom position input = .ok tokens) :
    ∃ lexemes, Cuts input lexemes ∧ List.Forall₂ Token.Is tokens lexemes := by
  fun_induction tokensFrom position input generalizing tokens with
  | case1 position =>
      cases h
      exact ⟨[], .done, .nil⟩
  | case2 position c rest hblank ih =>
      obtain ⟨lexemes, hcuts, hall⟩ := ih h
      exact ⟨lexemes, .blank hblank hcuts, hall⟩
  | case3 => cases h
  | case4 => cases h
  | case5 => cases h
  | case6 position c rest hblank kind length hfirst text later hlater =>
      rename_i ih
      cases h
      obtain ⟨lexemes, hcuts, hall⟩ := ih hlater
      obtain ⟨lexeme, hkind, htext, hsplit, hwhole⟩ := exists_lexeme hfirst
      have hlexeme : Cuts (lexeme.text ++ rest.drop length) (lexeme :: lexemes) :=
        .lexeme hwhole hcuts
      -- what the reader drops is what follows the lexeme
      rw [show lexeme.text ++ rest.drop length = c :: rest from hsplit] at hlexeme
      refine ⟨lexeme :: lexemes, hlexeme, .cons ⟨hkind.symm, ?_⟩ hall⟩
      rw [htext]
      rfl

/-! ## Putting text in front -/

theorem Cuts.append (h : Cuts rest lexemes) (hapart : lexeme.Apart rest) :
    Cuts (lexeme.text ++ rest) (lexeme :: lexemes) :=
  .lexeme (lexeme.firstToken?_append hapart) h

theorem Cuts.space (h : Cuts rest lexemes) : Cuts (' ' :: rest) lexemes :=
  .blank rfl h

theorem Cuts.gap {gap : List Char} (h : Cuts rest lexemes) (hgap : ∀ c ∈ gap, c ∈ blanks) :
    Cuts (gap ++ rest) lexemes := by
  induction gap with
  | nil => exact h
  | cons c gap ih =>
      have hblank : ∀ c ∈ blanks, isBlank c = true := by simp [blanks, isBlank]
      exact .blank (hblank c (hgap c List.mem_cons_self))
        (ih fun d hd => hgap d (List.mem_cons_of_mem c hd))

end Storyboard.Style
