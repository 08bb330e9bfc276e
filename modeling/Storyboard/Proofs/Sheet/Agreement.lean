import Storyboard.Proofs.Sheet.Building
import Storyboard.Proofs.Sheet.Reading
import Storyboard.Proofs.Style.RoundTrip

/-!
# Sheets and style text agree

A source is a style sheet in code and in style text, and it makes the same style in both languages
(`Source.agrees`).  Reading it as code has been dealt with; here it is read as style text.  It is
cut into the lexemes of its declarations, with the semicolons between them (`Source.cuts_textFrom`).
The reader sets the property of each declaration at its semicolon, or at the end of the text, and
passes over segments without one (`Source.parse_text`).  That the values are the same is a fact
about their wordings.
-/

namespace Storyboard.Sheet

open Storyboard.Code (Follows follows_cons_iff)
open Storyboard.Style (Cuts Lexeme)

variable {rest : List Char} {more : List Lexeme}

/-! ## Cutting -/

/-- A lexeme may be put in front of what ends a value. -/
theorem cuts_lexeme (lexeme : Lexeme) (hrest : Follows valueEnds rest) (h : Cuts rest more) :
    Cuts (lexeme.text ++ rest) (lexeme :: more) := by
  have hall : ∀ c ∈ valueEnds, c ∈ Style.separators := List.all_iff_forall_prop.mp (by decide)
  exact h.append (Or.inr fun c hc => hall c (hrest c hc))

/-- A mark may be put in front of everything. -/
theorem cuts_mark {c : Char} (lexeme : Lexeme) (htext : lexeme.text = [c]) (hc : c ∈ Style.marks)
    (h : Cuts rest more) : Cuts (c :: rest) (lexeme :: more) := by
  have hcuts := h.append (Lexeme.apart_of_mark htext hc)
  rwa [htext] at hcuts

theorem Terms.cuts {terms : Terms} {isBehind : Bool} (h : terms.isSpaced isBehind = true)
    (hrest : Follows valueEnds rest) (hcuts : Cuts rest more) :
    Cuts (terms.text ++ rest) (terms.wording.lexemes ++ more) := by
  induction terms generalizing isBehind rest more with
  | done => exact hcuts
  | value gap atom terms ih =>
      simp only [isSpaced, Bool.and_eq_true] at h
      have hatom := cuts_lexeme atom.lexeme (follows h.2 hrest) (ih h.2 hrest hcuts)
      rw [text, List.append_assoc, List.append_assoc]
      exact hatom.gap gap.blank
  | comma gap terms ih =>
      have hcomma := cuts_mark Style.comma rfl (by decide) (ih h hrest hcuts)
      rw [text, List.append_assoc]
      exact hcomma.gap gap.blank
  | call gap name arguments closing terms ihArguments ihTerms =>
      simp only [isSpaced, Bool.and_eq_true] at h
      -- from the end, as for code
      have hclosing := cuts_mark Style.closing rfl (by decide) (ihTerms h.2.2 hrest hcuts)
      have hends : Follows valueEnds (closing.text ++ (')' :: (terms.text ++ rest))) :=
        closing.follows (Or.inr (follows_cons_iff.mpr (by decide)))
      have harguments := ihArguments h.2.1 hends (hclosing.gap closing.blank)
      have hopening := cuts_mark Style.opening rfl (by decide) harguments
      have hname : Cuts (name.text ++ _) (name.lexeme :: _) :=
        cuts_lexeme name.lexeme (follows_cons_iff.mpr (by decide)) hopening
      have hcall := hname.gap gap.blank
      simpa [text, wording, Wording.lexemes] using hcall

namespace Entry

variable (entry : Entry)

/-- The declaration of style text that a declaration of the source is. -/
def styled : Style.Declaration :=
  entry.terms.wording.declaration entry.name.lexeme rfl (Terms.wording_ne_done entry.nonempty)

/-- Its lexemes, without a semicolon. -/
def lexemes : List Lexeme :=
  entry.styled.name :: Style.colon :: entry.styled.value

theorem cuts (hrest : Follows valueEnds rest) (hcuts : Cuts rest more) :
    Cuts (entry.text ++ rest) (entry.lexemes ++ more) := by
  have hafter := hcuts.gap entry.after.blank
  have hterms := Terms.cuts entry.spaced (entry.after.follows (Or.inr hrest)) hafter
  have hcolon := cuts_mark Style.colon rfl (by decide) hterms
  have hends : Follows valueEnds (entry.middle.text ++
      (':' :: (entry.terms.text ++ (entry.after.text ++ rest)))) :=
    entry.middle.follows (Or.inr (follows_cons_iff.mpr (by decide)))
  have hname : Cuts (entry.name.text ++ _) (entry.name.lexeme :: _) :=
    cuts_lexeme entry.name.lexeme hends (hcolon.gap entry.middle.blank)
  have hentry := hname.gap entry.before.blank
  simpa [text, lexemes, styled, Wording.declaration] using hentry

end Entry

namespace Segment

def lexemes : Segment → List Lexeme
  | blank _ => []
  | declared entry => entry.lexemes

theorem cuts (segment : Segment) (hrest : Follows valueEnds rest) (hcuts : Cuts rest more) :
    Cuts (segment.text ++ rest) (segment.lexemes ++ more) := by
  cases segment with
  | blank gap => exact hcuts.gap gap.blank
  | declared entry => exact entry.cuts hrest hcuts

end Segment

namespace Source

/-- The lexemes of segments with their semicolons, before the last one. -/
def lexemesFrom (last : Segment) : List Segment → List Lexeme
  | [] => last.lexemes
  | segment :: rest => segment.lexemes ++ Style.semicolon :: lexemesFrom last rest

theorem cuts_textFrom (last : Segment) (ended : List Segment) :
    Cuts (textFrom last ended) (lexemesFrom last ended) := by
  induction ended with
  | nil =>
      have hlast := last.cuts (Code.follows_nil valueEnds) .done
      simpa [textFrom, lexemesFrom] using hlast
  | cons segment ended ih =>
      have hsemicolon := cuts_mark Style.semicolon rfl (by decide) ih
      exact segment.cuts (follows_cons_iff.mpr (by decide)) hsemicolon

end Source

/-! ## Reading -/

namespace Source

open Style (readTokens)

/-- Reading a source sets the properties of its declarations in their order. -/
theorem readTokens_lexemesFrom (last : Segment) (ended : List Segment) (style : Style)
    {tokens : List Style.Token}
    (h : List.Forall₂ Style.Token.Is tokens (lexemesFrom last ended)) :
    readTokens .ready style tokens =
      .ok ((((ended ++ [last]).filterMap Segment.entry?).map fun entry => entry.styled.entry).foldl
        (fun style (property, value) => style.set property value) style) := by
  induction ended generalizing style tokens with
  | nil =>
      cases last with
      | blank gap =>
          cases h
          rfl
      | declared entry => exact Style.readTokens_last entry.styled h
  | cons segment ended ih =>
      cases segment with
      | blank gap =>
          cases h with
          | @cons token _ tokens _ htoken htokens =>
              have hkind : token.kind = .semicolon := htoken.kind_eq
              rw [readTokens]
              simp only [hkind]
              exact ih style htokens
      | declared entry =>
          have hwritten : List.Forall₂ Style.Token.Is tokens
              (entry.styled.written ++ lexemesFrom last ended) := by
            simpa [lexemesFrom, Segment.lexemes, Entry.lexemes, Style.Declaration.written] using h
          obtain ⟨later, hlater, hread⟩ := Style.readTokens_declaration entry.styled hwritten
          rw [hread, ih _ hlater]
          rfl

/-- A source is read as style text, and it makes the style of its declarations. -/
theorem parse_text (source : Source) :
    Style.parse source.text =
      .ok (.ofList (source.entries.map fun entry => entry.styled.entry)) := by
  obtain ⟨tokens, htokens, hlexemes⟩ := (cuts_textFrom source.last source.ended).tokensFrom 0
  rw [Style.parse, Style.tokenize, text, String.toList_ofList, htokens]
  exact readTokens_lexemesFrom source.last source.ended .empty hlexemes

end Source

/-! ## Agreement -/

/-- A declaration sets the same property to the same value in both languages. -/
theorem Entry.entry_styled (entry : Entry) : entry.styled.entry = entry.declaration.entry :=
  Wording.entry_declaration rfl (Terms.wording_ne_done entry.nonempty)

/-- A source with different properties is accepted in both languages, and what its code builds is
the style that is read from its text. -/
theorem Source.agrees (source : Source) (hnonempty : source.entries ≠ [])
    (hdistinct : (source.entries.map fun entry => entry.name.text).Nodup)
    (hcolors : source.ColorsEnd) :
    ∃ code style, expand source.text = .ok code ∧ built? code = some style ∧
      Style.parse source.text = .ok style := by
  refine ⟨expansion source.declarations, styleOf source.declarations,
    expand_text hnonempty hdistinct hcolors, built?_expansion source.declarations, ?_⟩
  have hentries : (source.entries.map fun entry => entry.styled.entry) =
      source.declarations.map Declaration.entry := by
    simp [declarations, Entry.entry_styled]
  rw [source.parse_text, hentries, styleOf]

def noGap : Gap := ⟨[], by simp⟩

def space : Gap := ⟨[' '], by simp [Style.blanks]⟩

def line : Gap := ⟨['\n'], by simp [Style.blanks]⟩

def fontName : Name :=
  ⟨⟨'f', ['o', 'n', 't'], by decide, by simp [Code.isLetterOrDigit], by decide⟩, []⟩

def twelvePixels : Number where
  isNegative := false
  whole := ['1', '2']
  fraction := []
  letters := ['p', 'x']
  isPercentage := false
  whole_ne_nil := by simp
  whole_digits := by simp
  fraction_digits := by simp
  alphabetic := by simp
  oneUnit := by simp
  literal := by decide

def marksInText : Quote where
  contents := ['a', ';', ' ', ':', ')']
  plain := List.all_iff_forall_prop.mp (by decide)

/-- Text, a unit and the mark of importance. -/
def fontEntry : Entry where
  before := noGap
  name := fontName
  middle := noGap
  terms :=
    .value space (.numeric twelvePixels) <|
    .value space (.quoted marksInText) <|
    .value space .important .done
  after := noGap
  nonempty := by simp
  commaFree := rfl
  spaced := rfl

def minWidth : Name where
  first := ⟨'m', ['i', 'n'], by decide, by simp [Code.isLetterOrDigit], by decide⟩
  more := [⟨'w', ['i', 'd', 't', 'h'], by decide, by simp [Code.isLetterOrDigit], by decide⟩]

def calcName : Name :=
  ⟨⟨'c', ['a', 'l', 'c'], by decide, by simp [Code.isLetterOrDigit], by decide⟩, []⟩

/-- A negative number with a fraction, and with a unit that begins like an exponent. -/
def fractionWithUnit : Number where
  isNegative := true
  whole := ['2']
  fraction := ['5']
  letters := ['e']
  isPercentage := false
  whole_ne_nil := by simp
  whole_digits := by simp
  fraction_digits := by simp
  alphabetic := by simp
  oneUnit := by simp
  literal := by decide

def fiftyPercent : Number where
  isNegative := false
  whole := ['5', '0']
  fraction := []
  letters := []
  isPercentage := true
  whole_ne_nil := by simp
  whole_digits := by simp
  fraction_digits := by simp
  alphabetic := by simp
  oneUnit := by simp
  literal := by decide

def numberColor : Color where
  digits := ['1', 'e', '1', 'e', '1', 'e']
  hexadecimal := by simp [Text.isHexDigit]
  three_le := by decide
  le_eight := by decide
  literal := Or.inr (by decide)

def wordColor : Color where
  digits := ['a', 'b', 'c']
  hexadecimal := by simp [Text.isHexDigit]
  three_le := by decide
  le_eight := by decide
  literal := Or.inl (by decide)

def dashedName : Name where
  first := ⟨'x', [], by decide, by simp, by decide⟩
  more := [⟨'y', [], by decide, by simp, by decide⟩]

/-- A call with an argument that begins with a sign and a colour that is a number, and words. -/
def widthEntry : Entry where
  before := line
  name := minWidth
  middle := space
  terms :=
    .call space calcName
      (.value space (.numeric fractionWithUnit) <|
        .comma space <|
        .value noGap (.colored numberColor) <|
        .value space (.numeric fiftyPercent) .done) space <|
    .value space (.colored wordColor) <|
    .value space (.named dashedName) .done
  after := space
  nonempty := by simp
  commaFree := rfl
  spaced := rfl

/-- A source with stray semicolons, values of every kind, and no semicolon at its end. -/
def mixedSource : Source :=
  ⟨[.blank noGap, .declared fontEntry, .blank space], .declared widthEntry⟩

theorem agrees_mixed :
    mixedSource.text =
        ";font: 12px \"a; :)\" !important; ;\nmin-width : calc( -2.5e ,#1e1e1e 50% ) #abc x-y " ∧
      mixedSource.entries ≠ [] ∧ (mixedSource.entries.map fun entry => entry.name.text).Nodup ∧
      mixedSource.ColorsEnd ∧
      ∃ code style, expand mixedSource.text = .ok code ∧ built? code = some style ∧
        Style.parse mixedSource.text = .ok style := by
  have hnonempty : mixedSource.entries ≠ [] := by decide
  have hdistinct : (mixedSource.entries.map fun entry => entry.name.text).Nodup := by decide
  have hcolors : mixedSource.ColorsEnd := by
    simp only [Source.ColorsEnd, Source.entries, mixedSource]
    decide
  refine ⟨?_, hnonempty, hdistinct, hcolors, mixedSource.agrees hnonempty hdistinct hcolors⟩
  decide

end Storyboard.Sheet
