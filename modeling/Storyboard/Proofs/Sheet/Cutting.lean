import Storyboard.Proofs.Sheet.Source

/-!
# Sources cut as code

The code that a source is.  It is given along the source, part by part; only whether a sign is
joined to the next one depends on what stands behind the part.  `Source.read?` says that the text of
the source is read as this code: each part is put in front of what follows, and what follows always
begins with something that ends it.
-/

namespace Storyboard.Sheet

open Storyboard.Code Storyboard.Text
open Storyboard.Style (TokenKind)

variable {rest : List Char} {more : List Lexeme}

/-- The characters with which begins what may stand behind a value. -/
def valueEnds : List Char := Style.marks ++ Style.blanks

/-- What ends a value ends a name. -/
theorem name_of_follows (h : Follows valueEnds rest) : Follows nameEnds rest := by
  have hall : ∀ c ∈ valueEnds, c ∈ nameEnds := List.all_iff_forall_prop.mp (by decide)
  exact fun c hc => hall c (h c hc)

/-- What ends a value ends a number. -/
theorem number_of_follows (h : Follows valueEnds rest) : Follows numberEnds rest := by
  have hall : ∀ c ∈ valueEnds, c ∈ numberEnds := List.all_iff_forall_prop.mp (by decide)
  exact fun c hc => hall c (h c hc)

/-! ## Names and numbers -/

def Part.spelling (part : Part) : String := String.ofList part.text

/-- The code of parts of a name that follow dashes. -/
def dashedCode : List Part → Code
  | [] => .done
  | part :: rest => .token (.sign '-' false) (.token (.word part.spelling) (dashedCode rest))

def Name.code (name : Name) : Code :=
  .token (.word name.first.spelling) (dashedCode name.more)

theorem Part.lexemesFrom? (part : Part) (hrest : Follows nameEnds rest)
    (hmore : Code.lexemesFrom? rest = some more) :
    Code.lexemesFrom? (part.text ++ rest) = some (.token (.word part.spelling) :: more) :=
  lexemesFrom?_word part.letter part.letters hrest hmore

theorem follows_dashedText (parts : List Part) (hrest : Follows nameEnds rest) :
    Follows nameEnds (dashedText parts ++ rest) := by
  cases parts with
  | nil => exact hrest
  | cons part parts => exact follows_cons_iff.mpr (by decide)

theorem lexemesFrom?_dashedText (parts : List Part) (hrest : Follows nameEnds rest)
    (hmore : Code.lexemesFrom? rest = some more) :
    Code.lexemesFrom? (dashedText parts ++ rest) = some ((dashedCode parts).lexemes ++ more) := by
  induction parts with
  | nil => exact hmore
  | cons part parts ih =>
      have hpart := part.lexemesFrom? (follows_dashedText parts hrest) ih
      have hdash := lexemesFrom?_sign (c := '-') (by decide) hpart
      have hletter : startsSign (part.text ++ (dashedText parts ++ rest)) = false :=
        startsSign_of_isLetterOrDigit (isLetterOrDigit_of_isLetter part.letter)
      rw [hletter] at hdash
      simpa [dashedText, dashedCode, Code.lexemes] using hdash

theorem Name.lexemesFrom? (name : Name) (hrest : Follows nameEnds rest)
    (hmore : Code.lexemesFrom? rest = some more) :
    Code.lexemesFrom? (name.text ++ rest) = some (name.code.lexemes ++ more) := by
  have hparts := lexemesFrom?_dashedText name.more hrest hmore
  have hfirst := name.first.lexemesFrom? (follows_dashedText name.more hrest) hparts
  rw [Name.text, List.append_assoc, hfirst]
  rfl

namespace Number

variable (number : Number)

/-- The code of the percent sign, before what stands behind it. -/
def percentCode (behind : List Char) : Code :=
  if number.isPercentage then .token (.sign '%' (startsSign behind)) .done else .done

def unsignedCode (behind : List Char) : Code :=
  .token (.number (String.ofList number.unsigned)) (number.percentCode behind)

def code (behind : List Char) : Code :=
  if number.isNegative then .token (.sign '-' false) (number.unsignedCode behind)
  else number.unsignedCode behind

theorem lexemesFrom?_percent (hmore : Code.lexemesFrom? rest = some more) :
    Code.lexemesFrom? (number.percent ++ rest) =
      some ((number.percentCode rest).lexemes ++ more) := by
  unfold percent percentCode
  split
  case isTrue => exact lexemesFrom?_sign (by decide) hmore
  case isFalse => exact hmore

theorem lexemesFrom? (hrest : Follows numberEnds rest)
    (hmore : Code.lexemesFrom? rest = some more) :
    Code.lexemesFrom? (number.text ++ rest) = some ((number.code rest).lexemes ++ more) := by
  have hpercent := number.lexemesFrom?_percent hmore
  have hends : Follows numberEnds (number.percent ++ rest) := by
    unfold percent
    split
    case isTrue => exact follows_cons_iff.mpr (by decide)
    case isFalse => exact hrest
  have hunsigned : Code.lexemesFrom? (number.unsigned ++ (number.percent ++ rest)) =
      some ((number.unsignedCode rest).lexemes ++ more) :=
    lexemesFrom?_number number.literal hends hpercent
  rw [text, List.append_assoc, List.append_assoc, sign, code]
  split
  case isFalse => exact hunsigned
  case isTrue =>
    have hsign := lexemesFrom?_sign (c := '-') (by decide) hunsigned
    have hdigit : startsSign (number.unsigned ++ (number.percent ++ rest)) = false :=
      startsSign_of_number number.literal
    rw [hdigit] at hsign
    exact hsign

end Number

/-! ## Colours -/

theorem toNat_lt_of_isHexDigit {c : Char} (h : isHexDigit c = true) : c.toNat < 128 := by
  simp only [isHexDigit, Char.isDigit, Bool.or_eq_true, Bool.and_eq_true, decide_eq_true_eq,
    Char.le_def, UInt32.le_iff_toNat_le] at h
  have hpoint : c.toNat = c.val.toNat := rfl
  have hdigit : '9'.val.toNat = 57 := rfl
  have hlower : 'f'.val.toNat = 102 := rfl
  have hupper : 'F'.val.toNat = 70 := rfl
  omega

/-- A hexadecimal digit is a decimal one or a letter. -/
theorem isHexDigit_cases {c : Char} (h : isHexDigit c = true) :
    c.isDigit = true ∨ isLetter c = true := by
  have hall : (!isHexDigit c || (c.isDigit || isLetter c)) = true :=
    of_ascii (p := fun c => !isHexDigit c || (c.isDigit || isLetter c)) (by decide)
      (toNat_lt_of_isHexDigit h)
  simpa [h] using hall

theorem isLetterOrDigit_of_isHexDigit {c : Char} (h : isHexDigit c = true) :
    isLetterOrDigit c = true :=
  (isHexDigit_cases h).elim isLetterOrDigit_of_isDigit isLetterOrDigit_of_isLetter

namespace Color

variable (color : Color)

def digitsToken : Token :=
  if color.isNumber then .number (String.ofList color.digits)
  else .word (String.ofList color.digits)

def code : Code := .token (.sign '#' false) (.token color.digitsToken .done)

theorem exists_digits : ∃ c digits, color.digits = c :: digits := by
  apply List.exists_cons_of_length_pos
  have hlength := color.three_le
  omega

/-- Digits that begin like a number are one. -/
theorem numberLength?_digits (h : color.isNumber = true) :
    numberLength? color.digits = some color.digits.length := by
  rcases color.literal with hword | hnumber
  · -- no word begins with a decimal digit
    exfalso
    obtain ⟨c, digits, hdigits⟩ := color.exists_digits
    have hc : c.isDigit = true := by
      rw [isNumber, hdigits] at h
      simpa using h
    simp [hdigits, wordLength, isWordStart_of_isDigit hc] at hword
  · exact hnumber

theorem lexemesFrom?_digits (hrest : Follows valueEnds rest)
    (hmore : Code.lexemesFrom? rest = some more) :
    Code.lexemesFrom? (color.digits ++ rest) = some (.token color.digitsToken :: more) := by
  unfold digitsToken
  split
  case isTrue h =>
    exact lexemesFrom?_number (color.numberLength?_digits h) (number_of_follows hrest) hmore
  case isFalse h =>
    obtain ⟨c, digits, hdigits⟩ := color.exists_digits
    have hhex : ∀ d ∈ c :: digits, isHexDigit d = true := hdigits ▸ color.hexadecimal
    obtain ⟨hc, htail⟩ := List.forall_mem_cons.mp hhex
    have hletter : isLetter c = true := by
      rcases isHexDigit_cases hc with hdigit | hletter
      · simp [isNumber, hdigits, hdigit] at h
      · exact hletter
    rw [hdigits]
    exact lexemesFrom?_word hletter (fun d hd => isLetterOrDigit_of_isHexDigit (htail d hd))
      (name_of_follows hrest) hmore

theorem lexemesFrom? (hrest : Follows valueEnds rest) (hmore : Code.lexemesFrom? rest = some more) :
    Code.lexemesFrom? ('#' :: (color.digits ++ rest)) = some (color.code.lexemes ++ more) := by
  have hsign : startsSign (color.digits ++ rest) = false := by
    obtain ⟨c, digits, hdigits⟩ := color.exists_digits
    have hhex : isHexDigit c = true := color.hexadecimal c (by simp [hdigits])
    rw [hdigits]
    exact startsSign_of_isLetterOrDigit (isLetterOrDigit_of_isHexDigit hhex)
  have hhash := lexemesFrom?_sign (c := '#') (by decide) (color.lexemesFrom?_digits hrest hmore)
  rw [hsign] at hhash
  exact hhash

end Color

/-! ## Values -/

namespace Atom

/-- The code of a value, before what stands behind it. -/
def code (behind : List Char) : Atom → Code
  | named name => name.code
  | numeric number => number.code behind
  | colored color => color.code
  | quoted quote => .token (.text (String.ofList quote.contents)) .done
  | important => .token (.sign '!' false) (.token (.word "important") .done)

theorem lexemesFrom? (atom : Atom) (hrest : Follows valueEnds rest)
    (hmore : Code.lexemesFrom? rest = some more) :
    Code.lexemesFrom? (atom.text ++ rest) = some ((atom.code rest).lexemes ++ more) := by
  cases atom with
  | named name => exact name.lexemesFrom? (name_of_follows hrest) hmore
  | numeric number => exact number.lexemesFrom? (number_of_follows hrest) hmore
  | colored color => exact color.lexemesFrom? hrest hmore
  | quoted quote =>
      have htext := lexemesFrom?_text quote.ne_quote (number_of_follows hrest) hmore
      simpa [text, code, Code.lexemes] using htext
  | important =>
      have hletters : ∀ d ∈ ['m', 'p', 'o', 'r', 't', 'a', 'n', 't'], isLetterOrDigit d = true :=
        List.all_iff_forall_prop.mp (by decide)
      have hword := lexemesFrom?_word (c := 'i') (by decide) hletters (name_of_follows hrest) hmore
      have hsign := lexemesFrom?_sign (c := '!') (by decide) hword
      exact hsign

/-- No value begins with a slash. -/
theorem ne_slash (atom : Atom) {c : Char} {text : List Char} (h : atom.text = c :: text) :
    c ≠ '/' := by
  rintro rfl
  have hleading : TokenKind.leading? '/' = some atom.lexeme.kind.stem := Style.Lexeme.leading?_eq h
  cases hleading

end Atom

/-! ## Several values -/

namespace Gap

variable (gap : Gap)

theorem lexemesFrom? (rest : List Char) :
    Code.lexemesFrom? (gap.text ++ rest) = Code.lexemesFrom? rest := by
  have hblanks : ∀ c ∈ Style.blanks, Text.blank.contains c = true :=
    List.all_iff_forall_prop.mp (by decide)
  exact lexemesFrom?_blanks fun c hc => hblanks c (gap.blank c hc)

theorem follows_cons {c : Char} {text : List Char} (h : gap.text = c :: text) : c ∈ valueEnds := by
  have hblanks : ∀ c ∈ Style.blanks, c ∈ valueEnds := List.all_iff_forall_prop.mp (by decide)
  exact hblanks c (gap.blank c (by simp [h]))

/-- A gap ends what stands before it, if it is not empty. -/
theorem follows (h : gap.text.isEmpty = false ∨ Follows valueEnds rest) :
    Follows valueEnds (gap.text ++ rest) := by
  cases hgap : gap.text with
  | nil =>
      rw [hgap] at h
      rcases h with h | h
      · cases h
      · exact h
  | cons c text => exact follows_cons_iff.mpr (gap.follows_cons hgap)

theorem ne_slash (h : ∀ c ∈ rest.head?, c ≠ '/') : ∀ c ∈ (gap.text ++ rest).head?, c ≠ '/' := by
  cases hgap : gap.text with
  | nil => exact h
  | cons d text =>
      intro c hc
      cases hc
      have hends : ∀ c ∈ valueEnds, c ≠ '/' := List.all_iff_forall_prop.mp (by decide)
      exact hends d (gap.follows_cons hgap)

end Gap

namespace Terms

/-- The code of values, before what stands behind them. -/
def code (behind : List Char) : Terms → Code
  | done => .done
  | value _ atom rest => atom.code (rest.text ++ behind) ++ rest.code behind
  | comma _ rest => .token (.sign ',' (startsSign (rest.text ++ behind))) (rest.code behind)
  | call _ name arguments closing rest =>
      name.code ++ .group .round (arguments.code (closing.text ++ (')' :: (rest.text ++ behind))))
        (rest.code behind)

variable {terms : Terms}

/-- What stands behind a value ends it. -/
theorem follows (h : terms.isSpaced true = true) (hrest : Follows valueEnds rest) :
    Follows valueEnds (terms.text ++ rest) := by
  cases terms with
  | done => exact hrest
  | value gap atom terms =>
      simp only [isSpaced, Bool.and_eq_true, Bool.not_true, Bool.false_or, Bool.not_eq_true'] at h
      rw [text, List.append_assoc]
      exact gap.follows (Or.inl h.1)
  | comma gap terms =>
      rw [text, List.append_assoc]
      exact gap.follows (Or.inr (follows_cons_iff.mpr (by decide)))
  | call gap name arguments closing terms =>
      simp only [isSpaced, Bool.and_eq_true, Bool.not_true, Bool.false_or, Bool.not_eq_true'] at h
      rw [text, List.append_assoc]
      exact gap.follows (Or.inl h.1)

/-- No values begin with a slash. -/
theorem ne_slash (terms : Terms) (hrest : Follows valueEnds rest) :
    ∀ c ∈ (terms.text ++ rest).head?, c ≠ '/' := by
  have hends : ∀ c ∈ valueEnds, c ≠ '/' := List.all_iff_forall_prop.mp (by decide)
  cases terms with
  | done => exact fun c hc => hends c (hrest c hc)
  | value gap atom terms =>
      rw [text, List.append_assoc]
      refine gap.ne_slash fun c hc => ?_
      obtain ⟨d, text, hatom⟩ := List.exists_cons_of_ne_nil atom.text_ne_nil
      rw [hatom] at hc
      cases hc
      exact atom.ne_slash hatom
  | comma gap terms =>
      rw [text, List.append_assoc]
      refine gap.ne_slash fun c hc => ?_
      cases hc
      decide
  | call gap name arguments closing terms =>
      rw [text, List.append_assoc]
      refine gap.ne_slash fun c hc => ?_
      cases hc
      exact (Atom.named name).ne_slash rfl

theorem lexemesFrom? {isBehind : Bool} (h : terms.isSpaced isBehind = true)
    (hrest : Follows valueEnds rest) (hmore : Code.lexemesFrom? rest = some more) :
    Code.lexemesFrom? (terms.text ++ rest) = some ((terms.code rest).lexemes ++ more) := by
  induction terms generalizing isBehind rest more with
  | done => exact hmore
  | value gap atom terms ih =>
      simp only [isSpaced, Bool.and_eq_true] at h
      have hterms := ih h.2 hrest hmore
      have hatom := atom.lexemesFrom? (follows h.2 hrest) hterms
      rw [text, List.append_assoc, gap.lexemesFrom?, List.append_assoc, hatom, code,
        lexemes_append, List.append_assoc]
  | comma gap terms ih =>
      have hterms := ih h hrest hmore
      rw [text, List.append_assoc, gap.lexemesFrom?]
      exact lexemesFrom?_sign (by decide) hterms
  | call gap name arguments closing terms ihArguments ihTerms =>
      simp only [isSpaced, Bool.and_eq_true] at h
      -- from the end: what follows the call, its closing bracket, its arguments, its name
      have hclosing := lexemesFrom?_closing (ihTerms h.2.2 hrest hmore)
      rw [← closing.lexemesFrom?] at hclosing
      have hends : Follows valueEnds (closing.text ++ (')' :: (terms.text ++ rest))) :=
        closing.follows (Or.inr (follows_cons_iff.mpr (by decide)))
      have harguments := ihArguments h.2.1 hends hclosing
      have hopening := lexemesFrom?_opening (arguments.ne_slash hends) harguments
      have hname := name.lexemesFrom? (follows_cons_iff.mpr (by decide)) hopening
      rw [text, List.append_assoc, gap.lexemesFrom?]
      simpa [code, lexemes_append, Code.lexemes] using hname

end Terms

/-! ## Declarations -/

/-- The code of a declaration, before what stands behind it. -/
def Entry.code (entry : Entry) (behind : List Char) : Code :=
  entry.name.code ++
    .token (.sign ':' (startsSign (entry.terms.text ++ (entry.after.text ++ behind))))
      (entry.terms.code (entry.after.text ++ behind))

theorem Entry.lexemesFrom? (entry : Entry) (hrest : Follows valueEnds rest)
    (hmore : Code.lexemesFrom? rest = some more) :
    Code.lexemesFrom? (entry.text ++ rest) = some ((entry.code rest).lexemes ++ more) := by
  rw [← entry.after.lexemesFrom?] at hmore
  have hterms := Terms.lexemesFrom? entry.spaced (entry.after.follows (Or.inr hrest)) hmore
  have hcolon := lexemesFrom?_sign (c := ':') (by decide) hterms
  rw [← entry.middle.lexemesFrom?] at hcolon
  have hends : Follows valueEnds (entry.middle.text ++
      (':' :: (entry.terms.text ++ (entry.after.text ++ rest)))) :=
    entry.middle.follows (Or.inr (follows_cons_iff.mpr (by decide)))
  have hname := entry.name.lexemesFrom? (name_of_follows hends) hcolon
  rw [text, List.append_assoc, entry.before.lexemesFrom?]
  simpa [code, lexemes_append, Code.lexemes] using hname

namespace Segment

def code (behind : List Char) : Segment → Code
  | blank _ => .done
  | declared entry => entry.code behind

theorem lexemesFrom? (segment : Segment) (hrest : Follows valueEnds rest)
    (hmore : Code.lexemesFrom? rest = some more) :
    Code.lexemesFrom? (segment.text ++ rest) = some ((segment.code rest).lexemes ++ more) := by
  cases segment with
  | blank gap =>
      rw [text, gap.lexemesFrom?, hmore]
      rfl
  | declared entry => exact entry.lexemesFrom? hrest hmore

end Segment

namespace Source

/-- The code of segments with their semicolons, before the last one. -/
def codeFrom (last : Segment) : List Segment → Code
  | [] => last.code []
  | segment :: rest =>
      segment.code (';' :: textFrom last rest) ++
        .token (.sign ';' (startsSign (textFrom last rest))) (codeFrom last rest)

def code (source : Source) : Code := codeFrom source.last source.ended

theorem lexemesFrom? (last : Segment) (ended : List Segment) :
    Code.lexemesFrom? (textFrom last ended) = some (codeFrom last ended).lexemes := by
  induction ended with
  | nil =>
      have hnil : Code.lexemesFrom? [] = some [] := by rw [Code.lexemesFrom?]
      have hlast := last.lexemesFrom? (follows_nil valueEnds) hnil
      simpa [textFrom, codeFrom] using hlast
  | cons segment ended ih =>
      have hsemicolon := lexemesFrom?_sign (c := ';') (by decide) ih
      have hsegment := segment.lexemesFrom? (follows_cons_iff.mpr (by decide)) hsemicolon
      simpa [textFrom, codeFrom, lexemes_append, Code.lexemes] using hsegment

/-- The text of a source is read as its code. -/
theorem read?_text (source : Source) : read? source.text = some source.code := by
  apply read?_of_lexemesFrom?
  rw [text, String.toList_ofList]
  exact lexemesFrom? source.last source.ended

end Source

end Storyboard.Sheet
