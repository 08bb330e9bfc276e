import Storyboard.Proofs.Code.Quoted
import Storyboard.Proofs.Code.Spelling
import Storyboard.Proofs.Sheet.Letters

/-!
# The letters of code

A plainly quoted text is cut as code into lexemes that have its letters one after the other
(`leaves_of_lexemesFrom?`).  Comments, and literals with a mark or an unusual escape, would not do
so; but the characters that style text may have outside quotes begin none.
-/

namespace Storyboard.Sheet

open Storyboard.Style (Plain isBlank)
open Storyboard.Text (quoteChar quoteChars)

variable {c : Char} {text rest : List Char} {p : Char → Prop}

/-- The characters of a token, a text in quotes. -/
def tokenChars : Code.Token → List Char
  | .text contents => quoteChars contents.toList
  | token => token.spelling.toList

def lexemeChars : Code.Lexeme → List Char
  | .token token => tokenChars token
  | .opening bracket => [bracket.openingChar]
  | .closing bracket => [bracket.closingChar]

/-- Whether a word or a number has no separators, and a text no quotes. -/
def IsSolid : Code.Token → Prop
  | .word spelling | .number spelling => Plain spelling.toList
  | .text contents => '"' ∉ contents.toList
  | .sign _ _ | .literal _ => True

/-- Words, numbers and texts among the lexemes are solid. -/
def AllSolid (lexemes : List Code.Lexeme) : Prop :=
  ∀ token, .token token ∈ lexemes → IsSolid token

/-- No quote opens a literal behind characters of a word. -/
theorem not_plainlyQuoted (hc : c ∉ Style.separators) (htext : Plain text) :
    ¬ PlainlyQuoted p (c :: (text ++ '"' :: rest)) := by
  intro h
  have hquote : c ≠ '"' := by
    rintro rfl
    exact hc (by decide)
  obtain ⟨-, hapart, hbehind⟩ := h.of_cons hquote
  induction text generalizing c with
  | nil => exact hc (hapart rfl)
  | cons d text ih =>
      obtain ⟨hd, htext⟩ := List.forall_mem_cons.mp htext
      have hquote : d ≠ '"' := by
        rintro rfl
        exact hd (by decide)
      obtain ⟨-, hapart, hlater⟩ := hbehind.of_cons hquote
      exact ih hd htext hbehind hquote hapart hlater

theorem rawText?_eq_none_of_plainlyQuoted {content : Code.Content} (hc : c ∉ Style.separators)
    (h : PlainlyQuoted p (c :: rest)) : Code.rawText? content rest = none := by
  have hhashes : Plain (rest.takeWhile (· == '#')) := by
    intro d hd
    have hhash := List.mem_takeWhile_imp hd
    rw [beq_iff_eq.mp hhash]
    decide
  have hsplit := List.take_append_drop (rest.takeWhile (· == '#')).length rest
  rw [← List.prefix_iff_eq_take.mp (List.takeWhile_prefix (· == '#'))] at hsplit
  unfold Code.rawText?
  simp only
  split
  case h_1 behind heq =>
    rw [← hsplit, heq] at h
    exact absurd h (not_plainlyQuoted hc hhashes)
  case h_2 => rfl

theorem markedLength?_eq_none_of_plainlyQuoted (h : PlainlyQuoted (isStyled · = true) text) :
    Code.markedLength? text = none := by
  have hraw {letter : Char} {rest : List Char} {content : Code.Content} (hletter : letter ≠ '"')
      (h : PlainlyQuoted (isStyled · = true) (letter :: 'r' :: rest)) :
      Code.rawText? content rest = none :=
    rawText?_eq_none_of_plainlyQuoted (by decide) (h.of_cons hletter).2.2
  have hapart {letter : Char} {rest : List Char} (hletter : letter ∉ Style.separators)
      (h : PlainlyQuoted (isStyled · = true) (letter :: '"' :: rest)) : False := by
    have hplain : Plain [] := fun _ hmem => absurd hmem List.not_mem_nil
    exact not_plainlyQuoted hletter hplain h
  unfold Code.markedLength?
  split
  · exact (hapart (by decide) h).elim
  · rw [hraw (by decide) h, Option.map_none]
  · exact (hapart (by decide) h).elim
  · rw [hraw (by decide) h, Option.map_none]
  · have hapostrophe := ((h.of_cons (by decide)).2.2.of_cons (by decide)).1
    cases hapostrophe
  · rfl

/-- What a text of code begins with: the piece and the rest. -/
structure Begins (text : List Char) (first : List Code.Lexeme) (taken rest : List Char) : Prop where
  split : text = taken ++ rest
  leaves : Leaves taken (first.flatMap lexemeChars)
  solid : AllSolid first
  rest_quoted : PlainlyQuoted (isStyled · = true) rest

variable {first : List Code.Lexeme} {length : Nat}

/-- A word or a number that is spelled like the text begins with. -/
theorem begins_token (length : Nat) {token : Code.Token}
    (hchars : tokenChars token = text.take length)
    (hplain : Plain (text.take length)) (hsolid : IsSolid token)
    (hquoted : PlainlyQuoted (isStyled · = true) text) :
    Begins text [.token token] (text.take length) (text.drop length) := by
  have hsplit := List.take_append_drop length text
  refine ⟨hsplit.symm, ?_, ?_, ?_⟩
  · have hleaves := (intact_plain hplain).leaves
    simpa [lexemeChars, hchars] using hleaves
  · intro other hother
    simp only [List.mem_singleton, Code.Lexeme.token.injEq] at hother
    exact hother ▸ hsolid
  · rw [← hsplit] at hquoted
    have hnot : '"' ∉ text.take length := fun hmem => hplain _ hmem (by decide)
    exact hquoted.of_append hnot

/-- A single character that is no quote. -/
theorem begins_single (hc : c ≠ '"') (hquoted : PlainlyQuoted (isStyled · = true) (c :: rest))
    (hleaves : Leaves [c] (first.flatMap lexemeChars)) (hsolid : AllSolid first) :
    Begins (c :: rest) first [c] rest :=
  ⟨rfl, hleaves, hsolid, (hquoted.of_cons hc).2.2⟩

theorem begins_text (hcut : Code.cut? '"' rest = some (first, length))
    (hquoted : PlainlyQuoted (isStyled · = true) ('"' :: rest)) :
    ∃ taken, Begins ('"' :: rest) first taken (rest.drop length) := by
  obtain ⟨contents, behind, hcontents, hapart, hbehind, rfl⟩ := hquoted.of_quote
  have hsuffix : Code.wordLength behind = 0 := by
    cases behind with
    | nil => rfl
    | cons c behind =>
        have hc : Code.isWordStart c = false := hapart
        rw [Code.wordLength, hc]
        rfl
  have hopening : Code.cut? '"' (contents.flatMap quoteChar ++ '"' :: behind) =
      (Code.textFrom? .characters (contents.flatMap quoteChar ++ '"' :: behind)).map
        Code.textCut := rfl
  rw [hopening, Code.textFrom?_contents, hsuffix] at hcut
  cases hcut
  have hdrop : (contents.flatMap quoteChar ++ '"' :: behind).drop
      ((contents.flatMap quoteChar).length + (0 + 1)) = behind := by
    simp [List.drop_append]
  rw [hdrop]
  refine ⟨quoteChars contents, by simp [quoteChars], ?_, ?_, hbehind⟩
  · simpa [lexemeChars, tokenChars] using (intact_quoteChars hcontents).leaves
  · intro token htoken
    simp only [List.mem_singleton, Code.Lexeme.token.injEq] at htoken
    rw [htoken, IsSolid, String.toList_ofList]
    exact hcontents

theorem eq_of_word? (h : Code.word? text = some (first, length)) :
    first = [.token (.word (String.ofList (text.take (length + 1))))] := by
  unfold Code.word? at h
  split at h
  · cases h
  · simp only [Option.ite_none_left_eq_some, Bool.or_eq_true, not_or, Option.some.injEq,
      Prod.mk.injEq, decide_eq_true_eq] at h
    obtain ⟨⟨hlength, -⟩, rfl, rfl⟩ := h
    rw [Nat.sub_add_cancel (by omega)]

/-- What begins with a letter or a digit is a word or a number. -/
theorem begins_letterOrDigit (hcut : Code.cut? c rest = some (first, length))
    (hc : Code.isLetterOrDigit c = true)
    (hquoted : PlainlyQuoted (isStyled · = true) (c :: rest)) :
    ∃ taken, Begins (c :: rest) first taken (rest.drop length) := by
  obtain ⟨hordinary, hsign, -, -⟩ := Code.isOrdinary_of_isLetterOrDigit hc
  have hraw : c = 'r' → Code.rawText? .characters rest = none := by
    rintro rfl
    exact rawText?_eq_none_of_plainlyQuoted (by decide) hquoted
  rw [Code.cut?_of_isOrdinary hordinary hraw (markedLength?_eq_none_of_plainlyQuoted hquoted),
    hsign] at hcut
  split at hcut
  case h_1 whole hnumber =>
    cases hcut
    have hplain := plain_of_clear (Code.clear_take_numberLength? hnumber).2
    obtain ⟨shorter, rfl⟩ := Nat.exists_eq_succ_of_ne_zero
      (Nat.pos_iff_ne_zero.mp (Code.length_of_numberLength? hnumber).1)
    refine ⟨_, begins_token (shorter + 1) ?_ hplain ?_ hquoted⟩
    · simp [tokenChars, Code.Token.spelling]
    · simpa [IsSolid] using hplain
  case h_2 =>
    have hword : Code.word? (c :: rest) = some (first, length) := hcut
    have hfirst := eq_of_word? hword
    have hclear := Code.allClear_word? hword _ (hfirst ▸ List.mem_singleton_self _)
    have hplain : Plain ((c :: rest).take (length + 1)) := by
      simpa using plain_of_clear hclear.2
    rw [hfirst]
    refine ⟨_, begins_token (length + 1) ?_ hplain ?_ hquoted⟩
    · simp [tokenChars, Code.Token.spelling]
    · simpa [IsSolid] using hplain

/-- The signs of style text, marks among them. -/
def styledSigns : List Char := [':', ';', ',', '-', '.', '%', '#', '!']

theorem styled_cases (h : isStyled c = true) :
    isBlank c = true ∨ Code.isLetterOrDigit c = true ∨ c = '(' ∨ c = ')' ∨ c ∈ styledSigns := by
  have hmarks : ∀ c ∈ Style.marks, c = '(' ∨ c = ')' ∨ c ∈ styledSigns :=
    List.all_iff_forall_prop.mp (by decide)
  have hsigns : ∀ c ∈ "-.%#!".toList, c ∈ styledSigns := List.all_iff_forall_prop.mp (by decide)
  simp only [isStyled, Bool.or_eq_true, List.contains_iff_mem] at h
  rcases h with ((hblank | hmark) | hletter) | hsign
  · exact Or.inl hblank
  · exact Or.inr (Or.inr (hmarks c hmark))
  · exact Or.inr (Or.inl hletter)
  · exact Or.inr (Or.inr (Or.inr (Or.inr (hsigns c hsign))))

/-- Whatever a plainly quoted text begins with as code, it has the letters of a piece of the text.
-/
theorem begins_of_cut? (hcut : Code.cut? c rest = some (first, length))
    (hquoted : PlainlyQuoted (isStyled · = true) (c :: rest)) :
    ∃ taken, Begins (c :: rest) first taken (rest.drop length) := by
  by_cases hquote : c = '"'
  · subst hquote
    exact begins_text hcut hquoted
  obtain ⟨hstyled, -, hrest⟩ := hquoted.of_cons hquote
  have hsolid {lexeme : Code.Lexeme} (h : ∀ token, lexeme = .token token → IsSolid token) :
      AllSolid [lexeme] := fun token htoken => h token (List.mem_singleton.mp htoken).symm
  rcases styled_cases hstyled with hblank | hletter | rfl | rfl | hsign
  · have hblanks : ∀ c ∈ Style.blanks, Code.cut? c rest = some ([], 0) := by
      simp only [Style.blanks, List.forall_mem_cons]
      exact ⟨rfl, rfl, rfl, rfl, rfl, fun _ hmem => absurd hmem List.not_mem_nil⟩
    rw [hblanks c (Style.mem_blanks_of_isBlank hblank)] at hcut
    cases hcut
    have hnothing : AllSolid [] := fun _ hmem => absurd hmem List.not_mem_nil
    exact ⟨[c], begins_single hquote hquoted (leaves_blank hblank) hnothing⟩
  · exact begins_letterOrDigit hcut hletter hquoted
  · have hslash : ∀ c ∈ rest.head?, c ≠ '/' := by
      rintro c hc rfl
      obtain ⟨behind, rfl⟩ := List.head?_eq_some_iff.mp hc
      cases (hrest.of_cons (by decide)).1
    rw [Code.cut?_opening hslash] at hcut
    cases hcut
    exact ⟨['('], begins_single hquote hquoted (leaves_singleton hquote rfl) (hsolid (by simp))⟩
  · have hclosing : Code.cut? ')' rest = some ([.closing .round], 0) := rfl
    rw [hclosing] at hcut
    cases hcut
    exact ⟨[')'], begins_single hquote hquoted (leaves_singleton hquote rfl) (hsolid (by simp))⟩
  · have hsigns : ∀ c ∈ styledSigns,
        Code.cut? c rest = some (Code.signCut c rest) ∧ isBlank c = false := by
      simp only [styledSigns, List.forall_mem_cons]
      refine ⟨⟨rfl, rfl⟩, ⟨rfl, rfl⟩, ⟨rfl, rfl⟩, ⟨rfl, rfl⟩, ⟨rfl, rfl⟩, ⟨rfl, rfl⟩, ⟨rfl, rfl⟩,
        ⟨rfl, rfl⟩, fun _ hmem => absurd hmem List.not_mem_nil⟩
    rw [(hsigns c hsign).1] at hcut
    cases hcut
    have hleaves := leaves_singleton hquote (hsigns c hsign).2
    refine ⟨[c], begins_single hquote hquoted ?_ (hsolid ?_)⟩
    · simpa [lexemeChars, tokenChars, Code.Token.spelling] using hleaves
    · rintro token htoken
      cases htoken
      trivial

/-- What code is cut into has the letters of its text. -/
theorem leaves_of_lexemesFrom? {lexemes : List Code.Lexeme}
    (h : Code.lexemesFrom? text = some lexemes)
    (hquoted : PlainlyQuoted (isStyled · = true) text) :
    Leaves text (lexemes.flatMap lexemeChars) ∧ AllSolid lexemes := by
  fun_induction Code.lexemesFrom? text generalizing lexemes with
  | case1 =>
      cases h
      exact ⟨.nil, fun _ hmem => absurd hmem List.not_mem_nil⟩
  | case2 => cases h
  | case3 c rest first length hcut ih =>
      obtain ⟨more, hmore, rfl⟩ := Option.map_eq_some_iff.mp h
      obtain ⟨taken, hbegins⟩ := begins_of_cut? hcut hquoted
      obtain ⟨hleaves, hsolid⟩ := ih hmore hbegins.rest_quoted
      rw [hbegins.split, List.flatMap_append]
      refine ⟨hbegins.leaves.append hleaves, fun token htoken => ?_⟩
      exact (List.mem_append.mp htoken).elim (hbegins.solid token) (hsolid token)

end Storyboard.Sheet
