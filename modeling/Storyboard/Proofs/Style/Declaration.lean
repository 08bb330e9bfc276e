import Storyboard.Proofs.Style.Cutting
import Storyboard.Style.Declaration

/-!
# Declarations as lexemes

A declaration is a name and the lexemes of its value, none of them a colon or a semicolon.  Two
things are shown about it.  Its written form is cut into the lexemes it has, with the colon after
the name and the semicolon at the end (`cuts_renderEntry`): the spaces inside the value are just
those without which a lexeme and the next one would not be apart.  And reading those lexemes sets
its property to its value (`readTokens_declaration`).
-/

namespace Storyboard.Style

open Storyboard.Text

/-- What stands before a lexeme of a value. -/
def gap (last : Option TokenKind) (kind : TokenKind) : List Char :=
  if needsSpace last kind then [' '] else []

/-- The text of the lexemes of a value when one of the kind `last` stands before them. -/
def joined (last : Option TokenKind) : List Lexeme → List Char
  | [] => []
  | lexeme :: rest => gap last lexeme.kind ++ lexeme.text ++ joined (some lexeme.kind) rest

/-- The kind of the last lexeme of a value when one of the kind `last` stands before them. -/
def lastKind (last : Option TokenKind) : List Lexeme → Option TokenKind
  | [] => last
  | lexeme :: rest => lastKind (some lexeme.kind) rest

/-- The lexeme may stand in a value. -/
def Lexeme.InValue (lexeme : Lexeme) : Prop :=
  lexeme.kind ≠ .colon ∧ lexeme.kind ≠ .semicolon

/-- A declaration as it stands in a text. -/
structure Declaration where
  name : Lexeme
  value : List Lexeme
  name_kind : name.kind = .identifier
  value_ne_nil : value ≠ []
  inValue : ∀ lexeme ∈ value, lexeme.InValue

variable {last : Option TokenKind} {lexeme next : Lexeme} {lexemes more : List Lexeme}
  {rest : List Char}

/-! ## The text of a value -/

theorem lastKind_append_singleton :
    lastKind last (lexemes ++ [lexeme]) = some lexeme.kind := by
  induction lexemes generalizing last with
  | nil => rfl
  | cons first lexemes ih => exact ih

theorem exists_lastKind (h : lexemes ≠ []) : ∃ kind, lastKind last lexemes = some kind := by
  rcases List.eq_nil_or_concat' lexemes with hnil | ⟨init, lexeme, rfl⟩
  · exact absurd hnil h
  · exact ⟨lexeme.kind, lastKind_append_singleton⟩

theorem joined_append :
    joined last (lexemes ++ more) = joined last lexemes ++ joined (lastKind last lexemes) more := by
  induction lexemes generalizing last with
  | nil => rfl
  | cons first lexemes ih => simp [joined, lastKind, ih]

theorem joined_append_singleton :
    joined last (lexemes ++ [lexeme]) =
      joined last lexemes ++ gap (lastKind last lexemes) lexeme.kind ++ lexeme.text := by
  induction lexemes generalizing last with
  | nil => simp [joined, lastKind]
  | cons first lexemes ih => simp [joined, lastKind, ih]

/-! ## Lexemes that are apart -/

/-- The lexeme after a name. -/
def colon : Lexeme := ⟨.colon, [':'], by decide, by decide⟩

/-- The lexeme after a value. -/
def semicolon : Lexeme := ⟨.semicolon, [';'], by decide, by decide⟩

/-- The lexeme between two arguments. -/
def comma : Lexeme := ⟨.comma, [','], by decide, by decide⟩

/-- The lexeme before arguments. -/
def opening : Lexeme := ⟨.openingParenthesis, ['('], by decide, by decide⟩

/-- The lexeme after arguments. -/
def closing : Lexeme := ⟨.closingParenthesis, [')'], by decide, by decide⟩

theorem Lexeme.text_eq_singleton {c : Char} (h : lexeme.kind.pattern = .char c) :
    lexeme.text = [c] := by
  have hmatches := lexeme.matches_text
  rw [h] at hmatches
  exact Pattern.matches_char_iff.mp hmatches

theorem Lexeme.apart_of_mark {c : Char} (h : lexeme.text = [c]) (hmark : c ∈ marks) :
    lexeme.Apart rest := by
  refine Or.inl fun hplain => ?_
  rw [h] at hplain
  exact hplain c List.mem_cons_self (mem_separators_of_mem_marks hmark)

theorem Lexeme.apart_cons {c : Char} (h : c ∈ separators) : lexeme.Apart (c :: rest) := by
  refine Or.inr fun d hd => ?_
  cases hd
  exact h

theorem needsSpace_eq_false_iff {last next : TokenKind} :
    needsSpace (some last) next = false ↔ last = .openingParenthesis ∨
      next = .comma ∨ next = .closingParenthesis ∨ next = .openingParenthesis := by
  cases last <;> cases next <;> simp [needsSpace]

/-- Where no space is written, one of the two lexemes is a mark. -/
theorem apart_of_needsSpace_eq_false (h : needsSpace (some lexeme.kind) next.kind = false) :
    lexeme.Apart (next.text ++ rest) := by
  have hnext {c : Char} (hmark : c ∈ marks) (hpattern : next.kind.pattern = .char c) :
      lexeme.Apart (next.text ++ rest) := by
    rw [Lexeme.text_eq_singleton hpattern]
    exact Lexeme.apart_cons (mem_separators_of_mem_marks hmark)
  -- a mark before or after: an opening parenthesis, or something that begins with a separator
  rcases needsSpace_eq_false_iff.mp h with hopening | hcomma | hclosing | hopening
  · have htext : lexeme.text = ['('] := by
      apply Lexeme.text_eq_singleton
      rw [hopening]
      rfl
    exact Lexeme.apart_of_mark htext (by decide)
  · exact hnext (c := ',') (by decide) (by rw [hcomma]; rfl)
  · exact hnext (c := ')') (by decide) (by rw [hclosing]; rfl)
  · exact hnext (c := '(') (by decide) (by rw [hopening]; rfl)

/-! ## Written declarations are cut into their lexemes -/

/-- A value is cut into its lexemes where a separator follows. -/
theorem cuts_joined {c : Char} (hseparator : c ∈ separators) (h : Cuts (c :: rest) more) :
    Cuts (joined last lexemes ++ c :: rest) (lexemes ++ more) := by
  induction lexemes generalizing last with
  | nil => exact h
  | cons lexeme lexemes ih =>
      -- what follows a lexeme is a separator, a space, or a lexeme that needs none
      have hapart : lexeme.Apart (joined (some lexeme.kind) lexemes ++ c :: rest) := by
        cases lexemes with
        | nil => exact Lexeme.apart_cons hseparator
        | cons next lexemes =>
            rw [joined, gap]
            by_cases hspace : needsSpace (some lexeme.kind) next.kind = true
            · rw [if_pos hspace]
              exact Lexeme.apart_cons (by decide)
            · rw [if_neg hspace, List.nil_append, List.append_assoc]
              exact apart_of_needsSpace_eq_false (Bool.eq_false_iff.mpr hspace)
      have hcuts : Cuts (lexeme.text ++ (joined (some lexeme.kind) lexemes ++ c :: rest))
          (lexeme :: (lexemes ++ more)) := ih.append hapart
      rw [joined, gap]
      by_cases hspace : needsSpace last lexeme.kind = true
      · rw [if_pos hspace]
        simpa using hcuts.space
      · rw [if_neg hspace]
        simpa using hcuts

namespace Declaration

/-- The name and the value of the property that is declared. -/
def entry (declaration : Declaration) : String × String :=
  (String.ofList declaration.name.text, String.ofList (joined none declaration.value))

/-- The lexemes of the written form. -/
def written (declaration : Declaration) : List Lexeme :=
  declaration.name :: colon :: (declaration.value ++ [semicolon])

theorem toList_renderEntry (declaration : Declaration) :
    (renderEntry declaration.entry).toList =
      declaration.name.text ++ (':' :: ' ' :: (joined none declaration.value ++ [';'])) := by
  simp [renderEntry, entry]

theorem cuts_renderEntry (declaration : Declaration) (h : Cuts rest more) :
    Cuts ((renderEntry declaration.entry).toList ++ rest) (declaration.written ++ more) := by
  -- from the end of the declaration to its beginning
  have hend : Cuts (semicolon.text ++ rest) (semicolon :: more) :=
    h.append (Lexeme.apart_of_mark (c := ';') rfl (by decide))
  have hvalue : Cuts (joined none declaration.value ++ ';' :: rest)
      (declaration.value ++ semicolon :: more) := cuts_joined (by decide) hend
  have hcolon : Cuts (colon.text ++ ' ' :: (joined none declaration.value ++ ';' :: rest))
      (colon :: (declaration.value ++ semicolon :: more)) :=
    hvalue.space.append (Lexeme.apart_of_mark (c := ':') rfl (by decide))
  have hname : Cuts (declaration.name.text ++
        (colon.text ++ ' ' :: (joined none declaration.value ++ ';' :: rest)))
      (declaration.name :: colon :: (declaration.value ++ semicolon :: more)) :=
    hcolon.append (Lexeme.apart_cons (c := ':') (by decide))
  rw [toList_renderEntry]
  simpa [written, colon] using hname

end Declaration

/-! ## Reading a declaration -/

theorem ofList_gap {kind : TokenKind} :
    String.ofList (gap last kind) = if needsSpace last kind then " " else "" := by
  rw [gap]
  split <;> rfl

/-- Every token but a colon and a semicolon is appended to a value. -/
theorem readTokens_within {property value : String} {style : Style} {token : Token}
    {tokens : List Token} (hcolon : token.kind ≠ .colon) (hsemicolon : token.kind ≠ .semicolon) :
    readTokens (.within property value last) style (token :: tokens) =
      readTokens (.within property
        (value ++ (if needsSpace last token.kind then " " else "") ++ token.text)
        (some token.kind)) style tokens := by
  simp [readTokens, hsemicolon]

/-- Reading the lexemes of a value appends their text to what there is of it. -/
theorem readTokens_value (property value : String) (last : Option TokenKind) (style : Style)
    {tokens : List Token} (hinValue : ∀ lexeme ∈ lexemes, lexeme.InValue)
    (h : List.Forall₂ Token.Is tokens (lexemes ++ more)) :
    ∃ later, List.Forall₂ Token.Is later more ∧
      readTokens (.within property value last) style tokens =
        readTokens (.within property (value ++ String.ofList (joined last lexemes))
          (lastKind last lexemes)) style later := by
  induction lexemes generalizing tokens value last with
  | nil => exact ⟨tokens, h, by simp [joined, lastKind]⟩
  | cons lexeme lexemes ih =>
      cases h with
      | @cons token _ tokens _ htoken htokens =>
          have hlexeme := hinValue lexeme List.mem_cons_self
          have hrest : ∀ other ∈ lexemes, other.InValue :=
            fun other hother => hinValue other (List.mem_cons_of_mem _ hother)
          rw [Lexeme.InValue, ← htoken.kind_eq] at hlexeme
          rw [readTokens_within hlexeme.1 hlexeme.2]
          obtain ⟨later, hlater, hread⟩ := ih _ _ hrest htokens
          refine ⟨later, hlater, ?_⟩
          rw [htoken.kind_eq, htoken.text_eq, ← ofList_gap]
          refine hread.trans ?_
          simp [joined, lastKind, String.append_assoc]

/-- Reading the lexemes of a declaration up to the end of its value. -/
theorem readTokens_body {style : Style} {tokens : List Token} (declaration : Declaration)
    (h : List.Forall₂ Token.Is tokens (declaration.name :: colon :: (declaration.value ++ more))) :
    ∃ later kind, List.Forall₂ Token.Is later more ∧
      readTokens .ready style tokens =
        readTokens (.within declaration.entry.1 declaration.entry.2 (some kind)) style later := by
  cases h with
  | @cons name _ tokens _ hname h =>
      cases h with
      | @cons token _ tokens _ hcolon hvalue =>
          obtain ⟨later, hlater, hread⟩ :=
            readTokens_value name.text "" none style declaration.inValue hvalue
          -- the value is not empty, so that it may end
          obtain ⟨kind, hkind⟩ : ∃ kind, lastKind none declaration.value = some kind :=
            exists_lastKind declaration.value_ne_nil
          refine ⟨later, kind, hlater, ?_⟩
          have hnameKind := hname.kind_eq.trans declaration.name_kind
          have hcolonKind : token.kind = .colon := hcolon.kind_eq
          have hentry : declaration.entry =
              (name.text, "" ++ String.ofList (joined none declaration.value)) := by
            rw [hname.text_eq, String.empty_append, Declaration.entry]
          rw [hentry]
          rw [hkind] at hread
          simp only [readTokens, hnameKind, hcolonKind, hread]

/-- Reading the lexemes of a declaration sets its property. -/
theorem readTokens_declaration {style : Style} {tokens : List Token} (declaration : Declaration)
    (h : List.Forall₂ Token.Is tokens (declaration.written ++ more)) :
    ∃ later, List.Forall₂ Token.Is later more ∧
      readTokens .ready style tokens =
        readTokens .ready (style.set declaration.entry.1 declaration.entry.2) later := by
  rw [Declaration.written, List.cons_append, List.cons_append, List.append_assoc] at h
  obtain ⟨later, kind, hlater, hread⟩ := readTokens_body declaration h
  cases hlater with
  | @cons ending _ later _ hending hlater =>
      have hendingKind : ending.kind = .semicolon := hending.kind_eq
      refine ⟨later, hlater, ?_⟩
      rw [hread]
      simp only [readTokens, hendingKind]

/-- The last declaration of a text may end without a semicolon. -/
theorem readTokens_last {style : Style} {tokens : List Token} (declaration : Declaration)
    (h : List.Forall₂ Token.Is tokens (declaration.name :: colon :: declaration.value)) :
    readTokens .ready style tokens =
      .ok (style.set declaration.entry.1 declaration.entry.2) := by
  rw [← List.append_nil declaration.value] at h
  obtain ⟨later, kind, hlater, hread⟩ := readTokens_body declaration h
  cases hlater
  rw [hread, readTokens]

end Storyboard.Style
