import Storyboard.Proofs.Sheet.Cutting
import Storyboard.Proofs.Sheet.Division

/-!
# The letters of a text

Blanks outside quotes mean nothing in a style but where they end a word.  What is left of a text
without them are its `letters`.  A piece of text that is `Intact` has only letters, whatever stands
around it.

Both languages read a text as pieces that have its letters one after the other, as long as the
quotes in it are those of texts that are written like quoted texts and stand apart from words
(`PlainlyQuoted`).  Here this is shown of style text (`leaves_of_cuts`).
-/

namespace Storyboard.Sheet

open Storyboard.Code (eq_of_append_eq)
open Storyboard.Style (Cuts Plain TokenKind isBlank numberPattern)
open Storyboard.Text (Pattern quoteChar quoteChars)

variable {c : Char} {text body rest left more : List Char}

/-! ## Letters -/

/-- The characters of a text without the blanks outside its quotes, where `isInside` says whether
the first one stands between two. -/
def letters (isInside : Bool) : List Char → List Char
  | [] => []
  | c :: rest =>
      if c = '"' then c :: letters (!isInside) rest
      else if isInside || !isBlank c then c :: letters isInside rest
      else letters isInside rest

/-- The characters of a text before its first semicolon outside quotes. -/
def beforeSemicolon (isInside : Bool) : List Char → List Char
  | [] => []
  | c :: rest =>
      if c = '"' then c :: beforeSemicolon (!isInside) rest
      else if isInside || c != ';' then c :: beforeSemicolon isInside rest
      else []

/-- The letters of a piece of text outside quotes, whatever follows it. -/
def Leaves (text left : List Char) : Prop :=
  ∀ rest, letters false (text ++ rest) = left ++ letters false rest

theorem Leaves.nil : Leaves [] [] := fun _ => rfl

theorem Leaves.append (h : Leaves text left) (hmore : Leaves body more) :
    Leaves (text ++ body) (left ++ more) := by
  intro rest
  rw [List.append_assoc, h, hmore, List.append_assoc]

theorem Leaves.eq (h : Leaves text left) : letters false text = left := by
  have hnothing := h []
  rwa [List.append_nil, letters, List.append_nil] at hnothing

theorem leaves_blank (h : isBlank c = true) : Leaves [c] [] := by
  intro rest
  have hquote : c ≠ '"' := by
    rintro rfl
    cases h
  simp [letters, hquote, h]

/-- The piece has neither blanks nor semicolons but in its quotes, and they match. -/
structure Intact (text : List Char) : Prop where
  leaves : Leaves text text
  before : ∀ rest, beforeSemicolon false (text ++ rest) = text ++ beforeSemicolon false rest

theorem Intact.nil : Intact [] := ⟨.nil, fun _ => rfl⟩

theorem Intact.append (h : Intact text) (hmore : Intact more) : Intact (text ++ more) := by
  refine ⟨h.leaves.append hmore.leaves, fun rest => ?_⟩
  rw [List.append_assoc, h.before, hmore.before, List.append_assoc]

theorem leaves_singleton (hquote : c ≠ '"') (hblank : isBlank c = false) : Leaves [c] [c] := by
  intro rest
  simp [letters, hquote, hblank]

theorem intact_singleton (hquote : c ≠ '"') (hblank : isBlank c = false) (hsemicolon : c ≠ ';') :
    Intact [c] := by
  refine ⟨leaves_singleton hquote hblank, fun rest => ?_⟩
  simp [beforeSemicolon, hquote, hsemicolon]

theorem intact_plain (h : Plain text) : Intact text := by
  induction text with
  | nil => exact .nil
  | cons c text ih =>
      obtain ⟨hc, htext⟩ := List.forall_mem_cons.mp h
      have hblank : isBlank c = false := by
        rw [Bool.eq_false_iff]
        intro hblank
        have hmem := Style.mem_blanks_of_isBlank hblank
        exact hc (List.mem_append_right (Style.marks ++ Style.quotes) hmem)
      have hsingle : Intact [c] := by
        apply intact_singleton _ hblank
        · rintro rfl
          exact hc (by decide)
        · rintro rfl
          exact hc (by decide)
      exact hsingle.append (ih htext)

/-- Between quotes every character is a letter. -/
theorem letters_inside (hbody : '"' ∉ body) (rest : List Char) :
    letters true (body ++ '"' :: rest) = body ++ '"' :: letters false rest ∧
      beforeSemicolon true (body ++ '"' :: rest) = body ++ '"' :: beforeSemicolon false rest := by
  induction body with
  | nil => simp [letters, beforeSemicolon]
  | cons c body ih =>
      simp only [List.mem_cons, not_or] at hbody
      obtain ⟨hletters, hbefore⟩ := ih hbody.2
      simp [letters, beforeSemicolon, Ne.symm hbody.1, hletters, hbefore]

theorem intact_between (hbody : '"' ∉ body) : Intact ('"' :: (body ++ ['"'])) := by
  constructor
  · intro rest
    simp [letters, (letters_inside hbody rest).1]
  · intro rest
    simp [beforeSemicolon, (letters_inside hbody rest).2]

/-- No quote is written for contents without one. -/
theorem quote_notMem_contents {contents : List Char} (h : '"' ∉ contents) :
    '"' ∉ contents.flatMap quoteChar := by
  intro hmem
  obtain ⟨c, hc, hmem⟩ := List.mem_flatMap.mp hmem
  have hne : c ≠ '"' := by
    rintro rfl
    exact h hc
  exact quote_notMem_quoteChar hne hmem

theorem intact_quoteChars {contents : List Char} (h : '"' ∉ contents) :
    Intact (quoteChars contents) :=
  intact_between (quote_notMem_contents h)

/-! ## Plain quotes -/

/-- The quotes of a text are those of texts without quotes in them, each written like a quoted text
and apart from words.  Every other character is allowed by `p`. -/
inductive PlainlyQuoted (p : Char → Prop) : List Char → Prop
  | done : PlainlyQuoted p []
  | outside {c : Char} {rest : List Char} (hquote : c ≠ '"') (hc : p c)
      (hapart : rest.head? = some '"' → c ∈ Style.separators) (hrest : PlainlyQuoted p rest) :
      PlainlyQuoted p (c :: rest)
  | quoted {contents rest : List Char} (hcontents : '"' ∉ contents)
      (hapart : Code.startsWord rest = false) (hrest : PlainlyQuoted p rest) :
      PlainlyQuoted p (quoteChars contents ++ rest)

variable {p q : Char → Prop}

theorem PlainlyQuoted.of_cons (h : PlainlyQuoted p (c :: rest)) (hquote : c ≠ '"') :
    p c ∧ (rest.head? = some '"' → c ∈ Style.separators) ∧ PlainlyQuoted p rest := by
  generalize htext : c :: rest = text at h
  cases h with
  | done => cases htext
  | outside _ hc hapart hrest =>
      obtain ⟨rfl, rfl⟩ := List.cons.inj htext
      exact ⟨hc, hapart, hrest⟩
  | quoted => exact absurd (List.cons.inj htext).1 hquote

theorem PlainlyQuoted.of_quote (h : PlainlyQuoted p ('"' :: rest)) :
    ∃ contents behind : List Char, '"' ∉ contents ∧ Code.startsWord behind = false ∧
      PlainlyQuoted p behind ∧
      rest = contents.flatMap quoteChar ++ '"' :: behind := by
  generalize htext : '"' :: rest = text at h
  cases h with
  | done => cases htext
  | outside hquote => exact absurd (List.cons.inj htext).1.symm hquote
  | @quoted contents behind hcontents hapart hrest =>
      refine ⟨contents, behind, hcontents, hapart, hrest, ?_⟩
      rw [quoteChars, List.cons_append, List.append_assoc] at htext
      exact (List.cons.inj htext).2

/-- What stands between the first two quotes is what is written for contents without quotes. -/
theorem PlainlyQuoted.exists_contents (hbody : '"' ∉ body)
    (h : PlainlyQuoted p ('"' :: (body ++ ['"']) ++ rest)) :
    ∃ contents : List Char, '"' ∉ contents ∧ '"' :: (body ++ ['"']) = quoteChars contents ∧
      Code.startsWord rest = false ∧ PlainlyQuoted p rest := by
  rw [List.cons_append, List.append_assoc] at h
  obtain ⟨contents, behind, hcontents, hapart, hbehind, heq⟩ := h.of_quote
  have hends {rest : List Char} : Code.Follows ['"'] ('"' :: rest) :=
    Code.follows_cons_iff.mpr (by decide)
  have hclear {text : List Char} (h : '"' ∉ text) : ∀ c ∈ text, c ∉ ['"'] := by
    rintro c hc hquote
    rw [List.mem_singleton.mp hquote] at hc
    exact h hc
  obtain ⟨rfl, hrest⟩ := eq_of_append_eq (hclear hbody)
    (hclear (quote_notMem_contents hcontents)) hends hends heq
  obtain rfl := (List.cons.inj hrest).2
  exact ⟨contents, hcontents, rfl, hapart, hbehind⟩

/-- Text without quotes may be taken from the front. -/
theorem PlainlyQuoted.of_append (htext : '"' ∉ text) (h : PlainlyQuoted p (text ++ rest)) :
    PlainlyQuoted p rest := by
  induction text with
  | nil => exact h
  | cons c text ih =>
      simp only [List.mem_cons, not_or] at htext
      exact ih htext.2 (h.of_cons (Ne.symm htext.1)).2.2

/-- It may be put there again where other characters are allowed. -/
theorem PlainlyQuoted.again (htext : '"' ∉ text) (h : PlainlyQuoted p (text ++ rest))
    (hall : ∀ c ∈ text, q c) (hrest : PlainlyQuoted q rest) : PlainlyQuoted q (text ++ rest) := by
  induction text with
  | nil => exact hrest
  | cons c text ih =>
      simp only [List.mem_cons, not_or] at htext
      obtain ⟨hc, hall⟩ := List.forall_mem_cons.mp hall
      obtain ⟨-, hapart, hbehind⟩ := h.of_cons (Ne.symm htext.1)
      exact .outside (Ne.symm htext.1) hc hapart (ih htext.2 hbehind hall)

/-- Text without quotes may be put in front, if it does not end in a word before a quote. -/
theorem PlainlyQuoted.append (htext : ∀ c ∈ text, c ≠ '"' ∧ p c)
    (hapart : rest.head? = some '"' → ∀ c ∈ text.getLast?, c ∈ Style.separators)
    (h : PlainlyQuoted p rest) : PlainlyQuoted p (text ++ rest) := by
  induction text with
  | nil => exact h
  | cons c text ih =>
      obtain ⟨⟨hquote, hc⟩, hall⟩ := List.forall_mem_cons.mp htext
      cases text with
      | nil => exact .outside hquote hc (fun hhead => hapart hhead c rfl) h
      | cons d text =>
          have hd : d ≠ '"' := (hall d List.mem_cons_self).1
          refine .outside hquote hc (fun hhead => ?_) (ih hall fun hhead e he => ?_)
          · exact absurd (Option.some.inj hhead) hd
          · exact hapart hhead e (by rwa [List.getLast?_cons_cons])

/-! ## Style text -/

/-- Whether the character may stand in style text outside quotes. -/
def isStyled (c : Char) : Bool :=
  isBlank c || Style.marks.contains c || Code.isLetterOrDigit c || "-.%#!".toList.contains c

theorem isStyled_of_isLetterOrDigit (h : Code.isLetterOrDigit c = true) : isStyled c = true := by
  simp [isStyled, h]

/-- A lexeme without separators is made of letters, digits and a few signs. -/
theorem isStyled_of_plain {lexeme : Style.Lexeme} (h : Plain lexeme.text) :
    ∀ c ∈ lexeme.text, isStyled c = true := by
  intro c hc
  have hmatches := lexeme.matches_text
  have hoccurs := Pattern.occurs_of_mem hmatches hc
  have hletters : isStyled c = true ∨ c.isDigit = true ∨ c.isAlpha = true → isStyled c = true := by
    rintro (hc | hdigit | halpha)
    · exact hc
    · exact isStyled_of_isLetterOrDigit (Code.isLetterOrDigit_of_isDigit hdigit)
    · exact isStyled_of_isLetterOrDigit (by simp [Code.isLetterOrDigit, Char.isAlphanum, halpha])
  apply hletters
  generalize lexeme.kind = kind at hmatches hoccurs
  cases kind with
  | important =>
      have hall : ∀ c ∈ "!important".toList, isStyled c = true :=
        List.all_iff_forall_prop.mp (by decide)
      refine Or.inl (hall c ?_)
      simpa [TokenKind.pattern, Pattern.word, Pattern.char, Pattern.occurs] using hoccurs
  | hexColor =>
      simp only [TokenKind.pattern, Pattern.between, Pattern.atMost, Pattern.optional, Pattern.char,
        Pattern.occurs, Bool.or_false, Bool.or_self, Bool.or_eq_true, beq_iff_eq] at hoccurs
      rcases hoccurs with rfl | hhex
      · exact Or.inl rfl
      · exact Or.inl (isStyled_of_isLetterOrDigit (isLetterOrDigit_of_isHexDigit hhex))
  | dimension =>
      simp only [TokenKind.pattern, numberPattern, Pattern.some, Pattern.optional, Pattern.char,
        Pattern.occurs, Bool.or_false, Bool.or_self, Bool.or_eq_true, beq_iff_eq] at hoccurs
      rcases hoccurs with (rfl | hdigit | rfl | hdigit) | rfl | halpha
      · exact Or.inl rfl
      · exact Or.inr (Or.inl hdigit)
      · exact Or.inl rfl
      · exact Or.inr (Or.inl hdigit)
      · exact Or.inl rfl
      · exact Or.inr (Or.inr halpha)
  | number =>
      simp only [TokenKind.pattern, numberPattern, Pattern.some, Pattern.optional, Pattern.char,
        Pattern.occurs, Bool.or_false, Bool.or_self, Bool.or_eq_true, beq_iff_eq] at hoccurs
      rcases hoccurs with rfl | hdigit | rfl | hdigit
      · exact Or.inl rfl
      · exact Or.inr (Or.inl hdigit)
      · exact Or.inl rfl
      · exact Or.inr (Or.inl hdigit)
  | identifier =>
      simp only [TokenKind.pattern, Pattern.occurs, Style.isIdentifierStart, Style.isIdentifierRest,
        Char.isAlphanum, Bool.or_eq_true, beq_iff_eq] at hoccurs
      rcases hoccurs with (halpha | rfl) | ((halpha | hdigit) | rfl) | rfl
      · exact Or.inr (Or.inr halpha)
      · exact Or.inl rfl
      · exact Or.inr (Or.inr halpha)
      · exact Or.inr (Or.inl hdigit)
      · exact Or.inl rfl
      · exact Or.inl rfl
  | text => exact absurd (by decide) (h _ (quote_mem_of_matches hmatches))
  | singleQuotedText => exact absurd (by decide) (h _ (quote_mem_of_matches hmatches))
  | openingParenthesis | closingParenthesis | colon | semicolon | comma =>
      rw [Pattern.matches_char_iff.mp hmatches] at h
      exact absurd (by decide) (h _ List.mem_cons_self)

/-- Between texts that are plainly written, a lexeme is a piece of its own. -/
theorem intact_of_lexeme {lexeme : Style.Lexeme}
    (hquoted : PlainlyQuoted (· ≠ '\'') (lexeme.text ++ rest)) :
    PlainlyQuoted (· ≠ '\'') rest ∧
      (PlainlyQuoted (isStyled · = true) rest →
        PlainlyQuoted (isStyled · = true) (lexeme.text ++ rest)) ∧
      Leaves lexeme.text lexeme.text ∧ (lexeme.kind ≠ .semicolon → Intact lexeme.text) := by
  obtain ⟨c, tail, htext⟩ := List.exists_cons_of_ne_nil lexeme.nonempty
  rcases form_cons htext with ⟨hmark, rfl⟩ | ⟨hquote, body, hbody, rfl⟩ | hplain
  · have hmarks : ∀ c ∈ Style.marks, c ≠ '"' ∧ isBlank c = false ∧ isStyled c = true :=
      List.all_iff_forall_prop.mp (by decide)
    obtain ⟨hc, hblank, hstyled⟩ := hmarks c hmark
    have hnot : '"' ∉ [c] := by simpa using Ne.symm hc
    rw [htext] at hquoted ⊢
    refine ⟨hquoted.of_append hnot, hquoted.again hnot (by simpa using hstyled),
      leaves_singleton hc hblank, fun hkind => intact_singleton hc hblank ?_⟩
    rintro rfl
    have hsemicolon : lexeme = Style.semicolon := eq_of_text_eq htext
    exact hkind (congrArg Style.Lexeme.kind hsemicolon)
  · simp only [Style.quotes, List.mem_cons, List.not_mem_nil, or_false] at hquote
    rcases hquote with rfl | rfl
    · rw [htext] at hquoted
      obtain ⟨contents, hcontents, hchars, hapart, hbehind⟩ := hquoted.exists_contents hbody
      have hintact := intact_quoteChars hcontents
      rw [htext, hchars]
      exact ⟨hbehind, .quoted hcontents hapart, hintact.leaves, fun _ => hintact⟩
    · rw [htext] at hquoted
      exact absurd rfl (hquoted.of_cons (by decide)).1
  · rw [← htext] at hplain
    have hnot : '"' ∉ lexeme.text := fun hmem => hplain _ hmem (by decide)
    have hintact := intact_plain hplain
    exact ⟨hquoted.of_append hnot, hquoted.again hnot (isStyled_of_plain hplain), hintact.leaves,
      fun _ => hintact⟩

/-- What style text is cut into has its letters. -/
theorem leaves_of_cuts {lexemes : List Style.Lexeme} (h : Cuts text lexemes)
    (hquoted : PlainlyQuoted (· ≠ '\'') text) :
    PlainlyQuoted (isStyled · = true) text ∧ Leaves text (lexemes.flatMap Style.Lexeme.text) ∧
      ∀ lexeme ∈ lexemes, lexeme.kind ≠ .semicolon → Intact lexeme.text := by
  induction h with
  | done => exact ⟨.done, .nil, fun _ hmem => absurd hmem List.not_mem_nil⟩
  | @blank c rest lexemes hblank hrest ih =>
      have hquote : c ≠ '"' := by
        rintro rfl
        cases hblank
      obtain ⟨-, hapart, hbehind⟩ := hquoted.of_cons hquote
      obtain ⟨hstyled, hleaves, hintact⟩ := ih hbehind
      have hc : isStyled c = true := by simp [isStyled, hblank]
      exact ⟨.outside hquote hc hapart hstyled, (leaves_blank hblank).append hleaves, hintact⟩
  | @lexeme lexeme rest lexemes hfirst hrest ih =>
      obtain ⟨hbehind, hagain, hleaves, hintact⟩ := intact_of_lexeme hquoted
      obtain ⟨hstyled, hleavesRest, hintactRest⟩ := ih hbehind
      exact ⟨hagain hstyled, hleaves.append hleavesRest,
        List.forall_mem_cons.mpr ⟨hintact, hintactRest⟩⟩

end Storyboard.Sheet
