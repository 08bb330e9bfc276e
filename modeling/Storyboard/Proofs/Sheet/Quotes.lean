import Mathlib.Data.Bool.AllAny
import Storyboard.Proofs.Code.Quoted
import Storyboard.Proofs.Style.Declaration

/-!
# Quotes that match

A text that is written between quotes may have a quote in it, behind a backslash.  Style text knows
no backslashes: there the text ends at that quote, and whatever is read next is read inside of it.
From there reading never gets back.  Whatever lexeme begins between the quotes of a text ends
between the quotes of some text (`closes_inside_of_lexeme`), and so the last quote begins nothing
(`not_closes_joined`).
-/

namespace Storyboard.Sheet

open Storyboard.Style (Lexeme Plain TokenKind joined gap)
open Storyboard.Text (quoteChar quoteChars)

/-! ## Texts in which the quotes match -/

/-- The quotes of written values match, where `isInside` says whether the first character stands
between two.  A backslash there takes the next character with it, which is never an apostrophe. -/
inductive Closes : Bool → List Char → Prop
  | done : Closes false []
  | opening {rest : List Char} : Closes true rest → Closes false ('"' :: rest)
  | outside {c : Char} {rest : List Char} (hc : c ∉ Style.quotes) :
      Closes false rest → Closes false (c :: rest)
  | closing {rest : List Char} : Closes false rest → Closes true ('"' :: rest)
  | inside {c : Char} {rest : List Char} (hquote : c ≠ '"') (hbackslash : c ≠ '\\') :
      Closes true rest → Closes true (c :: rest)
  | escaped {c : Char} {rest : List Char} (hc : c ≠ '\'') :
      Closes true rest → Closes true ('\\' :: c :: rest)

variable {c : Char} {text body rest : List Char}

/-- Outside quotes, a quote is the next one after a text without any. -/
theorem Closes.of_quote (hbody : '"' ∉ body) (h : Closes false (body ++ '"' :: rest)) :
    Closes true rest := by
  induction body with
  | nil =>
      cases h with
      | opening hrest => exact hrest
      | outside hc hrest => exact absurd (by decide) hc
  | cons c body ih =>
      simp only [List.mem_cons, not_or] at hbody
      cases h with
      | opening hrest => exact absurd rfl hbody.1
      | outside hc hrest => exact ih hbody.2 hrest

/-- An apostrophe stands between quotes, and no backslash takes it with it. -/
theorem Closes.of_apostrophe {isInside : Bool} (hbody : '\'' ∉ body)
    (h : Closes isInside (body ++ '\'' :: rest)) : Closes true rest := by
  generalize htext : body ++ '\'' :: rest = text at h
  induction h generalizing body with
  | done => simp at htext
  | @opening tail _ ih | @closing tail _ ih =>
      cases body with
      | nil => cases htext
      | cons c body =>
          obtain ⟨-, rfl⟩ := List.cons.inj htext
          exact ih (fun hmem => hbody (List.mem_cons_of_mem c hmem)) rfl
  | @outside d tail hd _ ih =>
      cases body with
      | nil =>
          obtain ⟨rfl, -⟩ := List.cons.inj htext
          exact absurd (by decide) hd
      | cons c body =>
          obtain ⟨-, rfl⟩ := List.cons.inj htext
          exact ih (fun hmem => hbody (List.mem_cons_of_mem c hmem)) rfl
  | @inside d tail _ _ hrest ih =>
      cases body with
      | nil =>
          obtain ⟨-, rfl⟩ := List.cons.inj htext
          exact hrest
      | cons c body =>
          obtain ⟨-, rfl⟩ := List.cons.inj htext
          exact ih (fun hmem => hbody (List.mem_cons_of_mem c hmem)) rfl
  | @escaped d tail hd _ ih =>
      match body, htext with
      | [], htext => cases htext
      | [_], htext =>
          obtain ⟨-, hsecond⟩ := List.cons.inj htext
          obtain ⟨rfl, -⟩ := List.cons.inj hsecond
          exact absurd rfl hd
      | b :: c :: body, htext =>
          obtain ⟨-, hsecond⟩ := List.cons.inj htext
          obtain ⟨-, rfl⟩ := List.cons.inj hsecond
          exact ih (fun hmem => hbody (List.mem_cons_of_mem b (List.mem_cons_of_mem c hmem))) rfl

theorem Closes.of_cons (hquote : c ≠ '"') (hbackslash : c ≠ '\\') (h : Closes true (c :: rest)) :
    Closes true rest := by
  generalize htext : c :: rest = text at h
  cases h with
  | closing => exact absurd (List.cons.inj htext).1 hquote
  | inside _ _ hrest =>
      obtain ⟨-, rfl⟩ := List.cons.inj htext
      exact hrest
  | escaped => exact absurd (List.cons.inj htext).1 hbackslash

theorem Closes.of_append (hbody : ∀ c ∈ body, c ≠ '"' ∧ c ≠ '\\') (h : Closes true (body ++ rest)) :
    Closes true rest := by
  induction body with
  | nil => exact h
  | cons c body ih =>
      obtain ⟨⟨hquote, hbackslash⟩, htail⟩ := List.forall_mem_cons.mp hbody
      exact ih htail (h.of_cons hquote hbackslash)

/-! ## No lexeme leads out of a text -/

theorem quote_mem_of_matches {quote : Char} (h : (Style.quotedPattern quote).Matches text) :
    quote ∈ text := by
  obtain ⟨opening, tail, rfl, hopening, -⟩ := Text.Pattern.matches_seq_iff.mp h
  rw [Text.Pattern.matches_char_iff.mp hopening]
  exact List.mem_append_left tail List.mem_cons_self

/-- A backslash stands in a lexeme between quotes only. -/
theorem backslash_notMem {lexeme : Lexeme} (h : Plain lexeme.text) : '\\' ∉ lexeme.text := by
  intro hmem
  have hmatches := lexeme.matches_text
  have hoccurs := Text.Pattern.occurs_of_mem hmatches hmem
  generalize lexeme.kind = kind at hmatches hoccurs
  cases kind with
  | text => exact h _ (quote_mem_of_matches hmatches) (by decide)
  | singleQuotedText => exact h _ (quote_mem_of_matches hmatches) (by decide)
  | important | hexColor | dimension | number | identifier | openingParenthesis
    | closingParenthesis | colon | semicolon | comma =>
      revert hoccurs
      decide

/-- The three forms of a lexeme, by its first character. -/
theorem form_cons {lexeme : Lexeme} (h : lexeme.text = c :: text) :
    (c ∈ Style.marks ∧ text = []) ∨ (c ∈ Style.quotes ∧ ∃ body, c ∉ body ∧ text = body ++ [c]) ∨
      Plain (c :: text) := by
  have hform := lexeme.form
  rw [h] at hform
  generalize htext : c :: text = whole at hform
  cases hform with
  | mark hmark =>
      obtain ⟨rfl, rfl⟩ := List.cons.inj htext
      exact Or.inl ⟨hmark, rfl⟩
  | @quoted quote body hquote hbody =>
      obtain ⟨rfl, rfl⟩ := List.cons.inj htext
      exact Or.inr (Or.inl ⟨hquote, body, hbody, rfl⟩)
  | plain hplain => exact Or.inr (Or.inr hplain)

/-- Whatever lexeme begins between the quotes of a text, it ends between the quotes of one. -/
theorem closes_inside_of_lexeme {lexeme : Lexeme} (h : Closes true (lexeme.text ++ rest)) :
    Closes true rest := by
  obtain ⟨c, tail, htext⟩ := List.exists_cons_of_ne_nil lexeme.nonempty
  rcases form_cons htext with ⟨hmark, rfl⟩ | ⟨hquote, body, hbody, rfl⟩ | hplain
  · have hmarks : ∀ c ∈ Style.marks, c ≠ '"' ∧ c ≠ '\\' := List.all_iff_forall_prop.mp (by decide)
    rw [htext] at h
    exact h.of_cons (hmarks c hmark).1 (hmarks c hmark).2
  · rw [htext, List.cons_append, List.append_assoc] at h
    simp only [Style.quotes, List.mem_cons, List.not_mem_nil, or_false] at hquote
    rcases hquote with rfl | rfl
    · -- the text that was open ends, and the quote that ends the lexeme opens the next one
      have houtside : Closes false (body ++ '"' :: rest) := by
        cases h with
        | closing hrest => exact hrest
        | inside hquote => exact absurd rfl hquote
      exact houtside.of_quote hbody
    · have hinside : Closes true (body ++ '\'' :: rest) := h.of_cons (by decide) (by decide)
      exact hinside.of_apostrophe hbody
  · rw [← htext] at hplain
    refine h.of_append fun c hc => ⟨?_, ?_⟩
    · rintro rfl
      exact hplain _ hc (by decide)
    · rintro rfl
      exact backslash_notMem hplain hc

/-- No lexemes are the rest of values from inside a text. -/
theorem not_closes_joined (last : Option TokenKind) (lexemes : List Lexeme) :
    ¬ Closes true (joined last lexemes) := by
  induction lexemes generalizing last with
  | nil =>
      intro h
      cases h
  | cons lexeme lexemes ih =>
      intro h
      rw [joined, List.append_assoc] at h
      have hgap : ∀ c ∈ gap last lexeme.kind, c ≠ '"' ∧ c ≠ '\\' := by
        rw [gap]
        split <;> simp
      have hlexeme : Closes true (lexeme.text ++ joined (some lexeme.kind) lexemes) :=
        h.of_append hgap
      exact ih (some lexeme.kind) (closes_inside_of_lexeme hlexeme)

/-! ## Written values have quotes that match -/

theorem hexDigits_ne (c : Char) : ∀ d ∈ Text.hexDigits c, d ≠ '"' ∧ d ≠ '\\' := fun _ hd =>
  ⟨Code.ne_of_mem_hexDigits hd (by decide), Code.ne_of_mem_hexDigits hd (by decide)⟩

theorem closes_append (hbody : ∀ c ∈ body, c ≠ '"' ∧ c ≠ '\\') (h : Closes true rest) :
    Closes true (body ++ rest) := by
  induction body with
  | nil => exact h
  | cons c body ih =>
      obtain ⟨⟨hquote, hbackslash⟩, htail⟩ := List.forall_mem_cons.mp hbody
      exact .inside hquote hbackslash (ih htail)

/-- The written form of a character stands between quotes. -/
theorem closes_quoteChar (c : Char) (h : Closes true rest) : Closes true (quoteChar c ++ rest) := by
  unfold quoteChar
  split
  case h_7 hquote hbackslash _ _ _ _ =>
    split
    · -- what stands in the braces is no quote either
      have hpoint : Closes true (Text.hexDigits c ++ ('\x7d' :: rest)) :=
        closes_append (hexDigits_ne c) (.inside (by decide) (by decide) h)
      rw [List.append_assoc, List.append_assoc]
      exact .escaped (by decide) (.inside (by decide) (by decide) hpoint)
    · exact .inside hquote hbackslash h
  all_goals exact .escaped (by decide) h

theorem closes_contents (contents : List Char) (h : Closes true rest) :
    Closes true (contents.flatMap quoteChar ++ rest) := by
  induction contents with
  | nil => exact h
  | cons c contents ih =>
      rw [List.flatMap_cons, List.append_assoc]
      exact closes_quoteChar c ih

theorem closes_quoteChars (contents : List Char) (h : Closes false rest) :
    Closes false (quoteChars contents ++ rest) := by
  rw [quoteChars, List.cons_append, List.append_assoc]
  exact .opening (closes_contents contents (.closing h))

theorem closes_plain (htext : Plain text) (h : Closes false rest) :
    Closes false (text ++ rest) := by
  induction text with
  | nil => exact h
  | cons c text ih =>
      obtain ⟨hc, htail⟩ := List.forall_mem_cons.mp htext
      exact .outside (fun hquote => hc (Style.mem_separators_of_mem_quotes hquote)) (ih htail)

theorem quote_notMem_quoteChar (hc : c ≠ '"') : '"' ∉ quoteChar c := by
  unfold quoteChar
  split
  case h_1 => exact absurd rfl hc
  case h_7 =>
    split
    · intro hmem
      simp only [List.mem_append, List.mem_cons, List.not_mem_nil, or_false] at hmem
      rcases hmem with (hmem | hmem) | hmem
      · revert hmem
        decide
      · exact (hexDigits_ne c _ hmem).1 rfl
      · cases hmem
    · simpa using Ne.symm hc
  all_goals decide

/-- A text with a quote in it does not end at its first quote. -/
theorem closes_inside_contents {contents : List Char} (hquote : '"' ∈ contents) (hbody : '"' ∉ body)
    (h : body ++ '"' :: text = contents.flatMap quoteChar ++ rest) (hrest : Closes true rest) :
    Closes true text := by
  induction contents generalizing body with
  | nil => cases hquote
  | cons c contents ih =>
      rw [List.flatMap_cons, List.append_assoc] at h
      by_cases hc : c = '"'
      · -- the written form of the quote is a backslash and the quote
        subst hc
        match body, h with
        | [], h => cases h
        | [_], h =>
            obtain ⟨-, hsecond⟩ := List.cons.inj h
            obtain ⟨-, rfl⟩ := List.cons.inj hsecond
            exact closes_contents contents hrest
        | _ :: d :: body, h =>
            obtain ⟨-, hsecond⟩ := List.cons.inj h
            obtain ⟨rfl, -⟩ := List.cons.inj hsecond
            simp at hbody
      · have hmem : '"' ∈ contents := by
          rcases List.mem_cons.mp hquote with heq | hmem
          · exact absurd heq.symm hc
          · exact hmem
        -- the first quote is behind what is written for the character
        rcases List.append_eq_append_iff.mp h with ⟨more, hlong, htail⟩ | ⟨more, rfl, htail⟩
        · cases more with
          | nil => exact ih hmem (List.not_mem_nil) htail
          | cons d more =>
              obtain ⟨rfl, -⟩ := List.cons.inj htail
              have hnot := quote_notMem_quoteChar hc
              rw [hlong] at hnot
              simp at hnot
        · exact ih hmem (fun hmore => hbody (List.mem_append_right _ hmore)) htail.symm

end Storyboard.Sheet
