import Storyboard.Proofs.Code.Cutting
import Storyboard.Proofs.Sheet.Quotes
import Storyboard.Proofs.Sheet.Wording
import Storyboard.Proofs.Sheet.Written
import Storyboard.Proofs.Style.Kind

/-!
# Written values divided into lexemes

Values that are written by a sheet may be the text of lexemes of style text as well, with the spaces
that style text has.  Then every value is one lexeme, or a call of such values
(`Written.exists_wording`).  A bare text is divided nowhere, since the lexemes it would consist of
would have spaces between them, and a text between quotes has no quote in it, since what is behind
it would be no lexemes.
-/

namespace Storyboard.Sheet

open Storyboard.Code (Follows eq_of_append_eq follows_nil follows_cons_iff)
open Storyboard.Style (Lexeme Plain TokenKind joined gap)
open Storyboard.Text (quoteChar quoteChars)

variable {c : Char} {text rest : List Char} {last : Option TokenKind} {lexemes : List Lexeme}

/-! ## The first lexeme -/

theorem eq_of_text_eq {first second : Lexeme} (h : first.text = second.text) : first = second := by
  obtain ⟨kind, text, nonempty, whole⟩ := first
  obtain ⟨other, _, _, hother⟩ := second
  subst h
  have hkind : kind = other := by
    have hsame := Option.some.inj (whole.symm.trans hother)
    exact (Prod.mk.inj hsame).1
  subst hkind
  rfl

/-- What stands before a value that keeps its distance. -/
def spaces (isBehind : Bool) : List Char := if isBehind then [' '] else []

/-- What begins with a character other than a space begins with a lexeme. -/
theorem exists_first {isBehind : Bool} (hc : c ≠ ' ')
    (h : joined last lexemes = spaces isBehind ++ c :: text) :
    ∃ lexeme tail more, lexemes = lexeme :: more ∧ lexeme.text = c :: tail ∧
      tail ++ joined (some lexeme.kind) more = text := by
  cases lexemes with
  | nil => simp [joined] at h
  | cons lexeme more =>
      obtain ⟨d, tail, htext⟩ := List.exists_cons_of_ne_nil lexeme.nonempty
      have hd : d ≠ ' ' := by
        rintro rfl
        have hblank := lexeme.isBlank_eq_false htext
        cases hblank
      have hfirst : d :: (tail ++ joined (some lexeme.kind) more) = c :: text := by
        rw [joined, gap, htext, List.append_assoc] at h
        -- a space on one side is one on the other
        split at h
        · cases isBehind with
          | false => exact absurd (List.cons.inj h).1.symm hc
          | true => exact (List.cons.inj h).2
        · cases isBehind with
          | false => exact h
          | true => exact absurd (List.cons.inj h).1 hd
      obtain ⟨rfl, hbehind⟩ := List.cons.inj hfirst
      exact ⟨lexeme, tail, more, rfl, htext, hbehind⟩

/-- A mark is a lexeme of its own. -/
theorem exists_mark {mark : Lexeme} (hmark : mark.text = [c]) (hc : c ∈ Style.marks)
    (h : joined last lexemes = c :: text) :
    ∃ more, lexemes = mark :: more ∧ joined (some mark.kind) more = text := by
  have hspace : c ≠ ' ' := by
    rintro rfl
    revert hc
    decide
  have hfalse : joined last lexemes = spaces false ++ c :: text := h
  obtain ⟨lexeme, tail, more, rfl, htext, hbehind⟩ := exists_first hspace hfalse
  rcases form_cons htext with ⟨-, rfl⟩ | ⟨hquote, -⟩ | hplain
  · obtain rfl : lexeme = mark := eq_of_text_eq (htext.trans hmark.symm)
    exact ⟨more, rfl, hbehind⟩
  · have hdisjoint : ∀ c ∈ Style.marks, c ∉ Style.quotes := List.all_iff_forall_prop.mp (by decide)
    exact absurd hquote (hdisjoint c hc)
  · exact absurd (Style.mem_separators_of_mem_marks hc) (hplain c List.mem_cons_self)

/-- What stands behind a word of its own in a text of lexemes. -/
theorem follows_joined {kind : TokenKind} (h : isWordKind kind = true) (more : List Lexeme) :
    Follows Style.separators (joined (some kind) more) := by
  cases more with
  | nil => exact follows_nil _
  | cons lexeme more =>
      rw [joined, gap]
      split
      case isTrue => exact follows_cons_iff.mpr (by decide)
      case isFalse hspace =>
        have hmark {c : Char} (hc : c ∈ Style.marks) (hpattern : lexeme.kind.pattern = .char c) :
            Follows Style.separators ([] ++ lexeme.text ++ joined (some lexeme.kind) more) := by
          rw [Lexeme.text_eq_singleton hpattern]
          exact follows_cons_iff.mpr (Style.mem_separators_of_mem_marks hc)
        rcases Style.needsSpace_eq_false_iff.mp (Bool.eq_false_iff.mpr hspace) with
          rfl | hcomma | hclosing | hopening
        · cases h
        · exact hmark (c := ',') (by decide) (by rw [hcomma]; rfl)
        · exact hmark (c := ')') (by decide) (by rw [hclosing]; rfl)
        · exact hmark (c := '(') (by decide) (by rw [hopening]; rfl)

/-- A lexeme without separators is a word of its own. -/
theorem isWordKind_of_plain {lexeme : Lexeme} (h : Plain lexeme.text) :
    isWordKind lexeme.kind = true := by
  have hnot {c : Char} (hc : c ∈ Style.marks) (hpattern : lexeme.kind.pattern = .char c) :
      False := by
    rw [Lexeme.text_eq_singleton hpattern] at h
    exact h c List.mem_cons_self (Style.mem_separators_of_mem_marks hc)
  cases hkind : lexeme.kind with
  | important | hexColor | text | singleQuotedText | dimension | number | identifier => rfl
  | openingParenthesis => exact (hnot (c := '(') (by decide) (by rw [hkind]; rfl)).elim
  | closingParenthesis => exact (hnot (c := ')') (by decide) (by rw [hkind]; rfl)).elim
  | colon => exact (hnot (c := ':') (by decide) (by rw [hkind]; rfl)).elim
  | semicolon => exact (hnot (c := ';') (by decide) (by rw [hkind]; rfl)).elim
  | comma => exact (hnot (c := ',') (by decide) (by rw [hkind]; rfl)).elim

/-- A text without separators is one lexeme. -/
theorem exists_plain {isBehind : Bool} (hnonempty : text ≠ []) (htext : Plain text)
    (hrest : Follows Style.separators rest)
    (h : joined last lexemes = spaces isBehind ++ (text ++ rest)) :
    ∃ lexeme more, lexemes = lexeme :: more ∧ lexeme.text = text ∧
      isWordKind lexeme.kind = true ∧ joined (some lexeme.kind) more = rest := by
  obtain ⟨c, tail, rfl⟩ := List.exists_cons_of_ne_nil hnonempty
  have hc : c ∉ Style.separators := htext c List.mem_cons_self
  have hspace : c ≠ ' ' := by
    rintro rfl
    exact hc (by decide)
  obtain ⟨lexeme, first, more, rfl, hfirst, hbehind⟩ := exists_first hspace h
  have hplain : Plain lexeme.text := by
    rw [hfirst]
    rcases form_cons hfirst with ⟨hmark, -⟩ | ⟨hquote, -⟩ | hplain
    · exact absurd (Style.mem_separators_of_mem_marks hmark) hc
    · exact absurd (Style.mem_separators_of_mem_quotes hquote) hc
    · exact hplain
  have hkind := isWordKind_of_plain hplain
  have hwhole : lexeme.text ++ joined (some lexeme.kind) more = (c :: tail) ++ rest := by
    rw [hfirst, List.cons_append, hbehind]
    rfl
  obtain ⟨hsame, hmore⟩ := eq_of_append_eq hplain htext (follows_joined hkind more) hrest hwhole
  exact ⟨lexeme, more, rfl, hsame, hkind, hmore⟩

/-- A text between quotes is one lexeme, since there is no quote in it. -/
theorem exists_quoted {isBehind : Bool} {contents : List Char} (hrest : Closes false rest)
    (h : joined last lexemes = spaces isBehind ++ (quoteChars contents ++ rest)) :
    ∃ lexeme more, lexemes = lexeme :: more ∧ lexeme.text = quoteChars contents ∧
      isWordKind lexeme.kind = true ∧ joined (some lexeme.kind) more = rest := by
  have hchars :
      quoteChars contents ++ rest = '"' :: (contents.flatMap quoteChar ++ '"' :: rest) := by
    simp [quoteChars]
  rw [hchars] at h
  obtain ⟨lexeme, tail, more, rfl, htext, hbehind⟩ := exists_first (by decide) h
  have hkind : lexeme.kind = .text := by
    have hleading : some TokenKind.text = some lexeme.kind.stem := Lexeme.leading?_eq htext
    generalize lexeme.kind = kind at hleading
    cases kind <;> first | rfl | cases hleading
  obtain ⟨body, hbody, rfl⟩ : ∃ body, '"' ∉ body ∧ tail = body ++ ['"'] := by
    rcases form_cons htext with ⟨hmark, -⟩ | ⟨-, hbody⟩ | hplain
    · exact absurd hmark (by decide)
    · exact hbody
    · exact absurd (by decide) (hplain '"' List.mem_cons_self)
  have hcut : body ++ '"' :: joined (some lexeme.kind) more =
      contents.flatMap quoteChar ++ '"' :: rest := by
    rw [← hbehind]
    simp
  have hquote : '"' ∉ contents := fun hquote =>
    not_closes_joined _ _ (closes_inside_contents hquote hbody hcut (.closing hrest))
  have hcontents : '"' ∉ contents.flatMap quoteChar := by
    intro hmem
    obtain ⟨c, hc, hmem⟩ := List.mem_flatMap.mp hmem
    have hne : c ≠ '"' := by
      rintro rfl
      exact hquote hc
    exact quote_notMem_quoteChar hne hmem
  have hends {rest : List Char} : Follows ['"'] ('"' :: rest) := follows_cons_iff.mpr (by decide)
  have hclear {text : List Char} (h : '"' ∉ text) : ∀ c ∈ text, c ∉ ['"'] := by
    rintro c hc hquote
    rw [List.mem_singleton.mp hquote] at hc
    exact h hc
  obtain ⟨rfl, hmore⟩ := eq_of_append_eq (hclear hbody) (hclear hcontents) hends hends hcut
  refine ⟨lexeme, more, rfl, ?_, ?_, (List.cons.inj hmore).2⟩
  · rw [htext, quoteChars]
  · rw [hkind]
    rfl

/-- A value that is no call is one lexeme. -/
theorem exists_spelling {isBehind : Bool} {text : String} (htext : Spelling text)
    (hrest : Follows Style.separators rest) (hcloses : Closes false rest)
    (h : joined last lexemes = spaces isBehind ++ (text.toList ++ rest)) :
    ∃ lexeme more, lexemes = lexeme :: more ∧ lexeme.text = text.toList ∧
      isWordKind lexeme.kind = true ∧ joined (some lexeme.kind) more = rest := by
  cases htext with
  | bare hbare => exact exists_plain hbare.1 hbare.2 hrest h
  | quoted contents =>
      rw [Text.quoted, String.toList_ofList] at h ⊢
      exact exists_quoted hcloses h

/-- A lexeme that begins like a word is an identifier. -/
theorem kind_of_bareName {lexeme : Lexeme} {name : String} (h : lexeme.text = name.toList)
    (hname : BareName name) : lexeme.kind = .identifier := by
  obtain ⟨c, tail, htext⟩ := List.exists_cons_of_ne_nil lexeme.nonempty
  have hstarts : Code.isWordStart c = true := by
    have hstarts := hname.1
    rwa [← h, htext] at hstarts
  have hne {d : Char} (hd : Code.isWordStart d = false) : (c == d) = false := by
    rw [beq_eq_false_iff_ne]
    rintro rfl
    rw [hstarts] at hd
    cases hd
  have hdigit : c.isDigit = false := by
    rw [Bool.eq_false_iff]
    intro hdigit
    rw [Code.isWordStart_of_isDigit hdigit] at hstarts
    cases hstarts
  have hmarks : ∀ d ∈ ['-', '!', '#', '"', '\'', '(', ')', ':', ';', ','], (c == d) = false := by
    have hall : ∀ d ∈ ['-', '!', '#', '"', '\'', '(', ')', ':', ';', ','], d ∈ Code.wordEnds :=
      List.all_iff_forall_prop.mp (by decide)
    exact fun d hd => hne (Code.no_word_of_mem_wordEnds (hall d hd)).1
  simp only [List.forall_mem_cons] at hmarks
  have hleading := Lexeme.leading?_eq htext
  -- a character that begins words and a token begins identifiers
  simp only [TokenKind.leading?, hdigit, hmarks, List.lookup_cons, List.lookup_nil, Bool.or_self,
    Bool.false_eq_true, if_false, Option.ite_none_right_eq_some, Option.some.injEq] at hleading
  have hstem := hleading.2
  generalize lexeme.kind = kind at hstem
  cases kind <;> first | rfl | cases hstem

/-! ## Values -/

theorem spelled_nil (isBehind : Bool) : Wording.spelled isBehind [] = "" := by
  cases isBehind <;> rfl

theorem toList_spelled_plain (isBehind : Bool) (text : String) (values : List Value) :
    (Wording.spelled isBehind (.plain text :: values)).toList =
      spaces isBehind ++ (text.toList ++ (Wording.spelled true values).toList) := by
  rw [Wording.spelled_cons, spaces]
  cases isBehind <;> simp [Value.plain]

theorem toList_spelled_comma (isBehind : Bool) (values : List Value) :
    (Wording.spelled isBehind (.comma :: values)).toList =
      ',' :: (Wording.spelled true values).toList := by
  rw [Wording.spelled_cons]
  cases isBehind <;> simp [Value.comma]

theorem toList_spelled_call (isBehind : Bool) (name : String) (arguments values : List Value) :
    (Wording.spelled isBehind (.call name arguments :: values)).toList =
      spaces isBehind ++ (name.toList ++ '(' :: ((Wording.spelled false arguments).toList ++
        ')' :: (Wording.spelled true values).toList)) := by
  have hjoin : Value.join arguments = Wording.spelled false arguments := rfl
  rw [Value.call, toList_spelled_plain, hjoin]
  simp

theorem closes_spaces (isBehind : Bool) (h : Closes false rest) :
    Closes false (spaces isBehind ++ rest) := by
  cases isBehind with
  | false => exact h
  | true => exact .outside (by decide) h

namespace Written

variable {values : List Value}

theorem follows (h : Written values) (hrest : Follows Style.separators rest) :
    Follows Style.separators ((Wording.spelled true values).toList ++ rest) := by
  cases h with
  | done =>
      rw [spelled_nil]
      exact hrest
  | comma =>
      rw [toList_spelled_comma]
      exact follows_cons_iff.mpr (by decide)
  | plain =>
      rw [toList_spelled_plain]
      exact follows_cons_iff.mpr (by decide)
  | call =>
      rw [toList_spelled_call]
      exact follows_cons_iff.mpr (by decide)

theorem closes (h : Written values) (isBehind : Bool) (hrest : Closes false rest) :
    Closes false ((Wording.spelled isBehind values).toList ++ rest) := by
  induction h generalizing isBehind rest with
  | done =>
      rw [spelled_nil]
      exact hrest
  | comma _ ih =>
      rw [toList_spelled_comma]
      exact .outside (by decide) (ih true hrest)
  | plain htext _ ih =>
      rw [toList_spelled_plain, List.append_assoc, List.append_assoc]
      apply closes_spaces
      cases htext with
      | bare hbare => exact closes_plain hbare.2 (ih true hrest)
      | quoted contents =>
          rw [Text.quoted, String.toList_ofList]
          exact closes_quoteChars _ (ih true hrest)
  | call hname _ _ ihArguments ihValues =>
      have hclosing := Closes.outside (c := ')') (by decide) (ihValues true hrest)
      have hopening := Closes.outside (c := '(') (by decide) (ihArguments false hclosing)
      have hcall := closes_spaces isBehind (closes_plain hname.2 hopening)
      rw [toList_spelled_call]
      simpa using hcall

/-- Written values that are the text of lexemes are a wording. -/
theorem exists_wording {isBehind : Bool} (h : Written values)
    (hrest : Follows Style.separators rest) (hcloses : Closes false rest)
    (hjoined : joined last lexemes = (Wording.spelled isBehind values).toList ++ rest) :
    ∃ (wording : Wording) (more : List Lexeme) (before : Option TokenKind),
      wording.values = values ∧ lexemes = wording.lexemes ++ more ∧ joined before more = rest := by
  induction h generalizing isBehind last lexemes rest with
  | done =>
      rw [spelled_nil] at hjoined
      exact ⟨.done, lexemes, last, rfl, rfl, hjoined⟩
  | @plain text values htext hvalues ih =>
      rw [toList_spelled_plain, List.append_assoc, List.append_assoc] at hjoined
      obtain ⟨lexeme, behind, rfl, hlexeme, hkind, hbehind⟩ := exists_spelling htext
        (hvalues.follows hrest) (hvalues.closes true hcloses) hjoined
      obtain ⟨wording, more, before, hwording, rfl, hmore⟩ := ih hrest hcloses hbehind
      refine ⟨.word lexeme hkind wording, more, before, ?_, rfl, hmore⟩
      rw [Wording.values, hwording, hlexeme, String.ofList_toList]
  | @comma values hvalues ih =>
      rw [toList_spelled_comma] at hjoined
      obtain ⟨behind, rfl, hbehind⟩ := exists_mark (show Style.comma.text = [','] from rfl)
        (by decide) hjoined
      obtain ⟨wording, more, before, hwording, rfl, hmore⟩ := ih hrest hcloses hbehind
      refine ⟨.comma wording, more, before, ?_, rfl, hmore⟩
      rw [Wording.values, hwording]
  | @call name arguments values hname harguments hvalues ihArguments ihValues =>
      have hclosing := Closes.outside (c := ')') (by decide) (hvalues.closes true hcloses)
      have hcall : joined last lexemes = spaces isBehind ++ (name.toList ++
          ('(' :: ((Wording.spelled false arguments).toList ++
            (')' :: ((Wording.spelled true values).toList ++ rest))))) := by
        rw [hjoined, toList_spelled_call]
        simp
      obtain ⟨lexeme, behind, rfl, hlexeme, -, hbehind⟩ := exists_plain hname.bare.1 hname.2
        (follows_cons_iff.mpr (by decide)) hcall
      obtain ⟨inner, rfl, hinner⟩ := exists_mark (show Style.opening.text = ['('] from rfl)
        (by decide) hbehind
      obtain ⟨within, ending, _, hwithin, rfl, hending⟩ :=
        ihArguments (follows_cons_iff.mpr (by decide)) hclosing hinner
      obtain ⟨later, rfl, hlater⟩ := exists_mark (show Style.closing.text = [')'] from rfl)
        (by decide) hending
      obtain ⟨wording, more, before, hwording, rfl, hmore⟩ := ihValues hrest hcloses hlater
      refine
        ⟨.call lexeme (kind_of_bareName hlexeme hname) within wording, more, before, ?_, ?_, hmore⟩
      · rw [Wording.values, hwithin, hwording, hlexeme, String.ofList_toList]
      · simp [Wording.lexemes]

end Written

end Storyboard.Sheet
