import Storyboard.Proofs.Code.Cutting
import Storyboard.Proofs.Sheet.Wording
import Storyboard.Proofs.Style.Kind
import Storyboard.Text.Quoted

/-!
# Sources in both languages

The texts that are style sheets in code as well as style text, as a grammar: a `Source` is a list of
segments with semicolons between them, each blank or a declaration, and the values of a declaration
are `Terms`, written with gaps.  What a literal of code may be spelled like is part of each kind of
value: a number or a colour has to be one literal, a part of a name must not be reserved, and a text
is free of escapes.

Every value is a lexeme of style text (`Atom.lexeme`), so that terms are a `Wording`.
-/

namespace Storyboard.Sheet

open Storyboard.Code Storyboard.Text
open Storyboard.Style (TokenKind)

/-! ## Values -/

/-- Characters that are blank in code as well as in style text. -/
structure Gap where
  text : List Char
  blank : ∀ c ∈ text, c ∈ Style.blanks

/-- A name of ASCII letters and digits. -/
structure Part where
  first : Char
  rest : List Char
  letter : isLetter first = true
  letters : ∀ c ∈ rest, isLetterOrDigit c = true
  isName : Code.isName (String.ofList (first :: rest)) = true

def Part.text (part : Part) : List Char := part.first :: part.rest

/-- Parts of a name that follow dashes. -/
def dashedText (parts : List Part) : List Char := parts.flatMap fun part => '-' :: part.text

/-- Parts with a dash between two. -/
structure Name where
  first : Part
  more : List Part

def Name.text (name : Name) : List Char := name.first.text ++ dashedText name.more

/-- A decimal number without its sign; it has a point if it has a fraction. -/
def unsignedText (whole fraction letters : List Char) : List Char :=
  whole ++ ((if fraction = [] then [] else '.' :: fraction) ++ letters)

/-- A number with a percent sign, a unit of letters or none. -/
structure Number where
  isNegative : Bool
  whole : List Char
  fraction : List Char
  letters : List Char
  isPercentage : Bool
  whole_ne_nil : whole ≠ []
  whole_digits : ∀ c ∈ whole, c.isDigit = true
  fraction_digits : ∀ c ∈ fraction, c.isDigit = true
  alphabetic : ∀ c ∈ letters, c.isAlpha = true
  oneUnit : isPercentage = true → letters = []
  /-- The number without its sign is one literal. -/
  literal : numberLength? (unsignedText whole fraction letters) =
    some (unsignedText whole fraction letters).length

namespace Number

variable (number : Number)

def unsigned : List Char := unsignedText number.whole number.fraction number.letters

def sign : List Char := if number.isNegative then ['-'] else []

def percent : List Char := if number.isPercentage then ['%'] else []

def text : List Char := number.sign ++ (number.unsigned ++ number.percent)

end Number

/-- The digits of a colour.  They are one word or one number. -/
structure Color where
  digits : List Char
  hexadecimal : ∀ c ∈ digits, isHexDigit c = true
  three_le : 3 ≤ digits.length
  le_eight : digits.length ≤ 8
  literal : wordLength digits = digits.length ∨ numberLength? digits = some digits.length

/-- Whether the digits are a number, since they begin like one. -/
def Color.isNumber (color : Color) : Bool := color.digits.head?.any Char.isDigit

/-- The contents of a text in which every character stands for itself. -/
structure Quote where
  contents : List Char
  plain : ∀ c ∈ contents, quoteChar c = [c]

/-- A value that is no call. -/
inductive Atom where
  | named (name : Name)
  | numeric (number : Number)
  | colored (color : Color)
  | quoted (quote : Quote)
  | important

namespace Atom

/-- The mark of importance. -/
def importantText : List Char := '!' :: ['i', 'm', 'p', 'o', 'r', 't', 'a', 'n', 't']

def text : Atom → List Char
  | named name => name.text
  | numeric number => number.text
  | colored color => '#' :: color.digits
  | quoted quote => '"' :: (quote.contents ++ ['"'])
  | important => importantText

def kind : Atom → TokenKind
  | named _ => .identifier
  | numeric number =>
      if number.letters = [] ∧ number.isPercentage = false then .number else .dimension
  | colored _ => .hexColor
  | quoted _ => .text
  | important => .important

def isNamed : Atom → Bool
  | named _ => true
  | _ => false

/-- Whether the value is a colour whose digits are those of a number. -/
def isNumberColor : Atom → Bool
  | colored color => color.isNumber
  | _ => false

end Atom

/-- Values and commas with gaps before them.  A call has its arguments in brackets, with a gap
before the closing one. -/
inductive Terms where
  | done
  | value (gap : Gap) (atom : Atom) (rest : Terms)
  | comma (gap : Gap) (rest : Terms)
  | call (gap : Gap) (name : Name) (arguments : Terms) (closing : Gap) (rest : Terms)

namespace Terms

def text : Terms → List Char
  | done => []
  | value gap atom rest => gap.text ++ (atom.text ++ rest.text)
  | comma gap rest => gap.text ++ (',' :: rest.text)
  | call gap name arguments closing rest =>
      gap.text ++ (name.text ++ ('(' :: (arguments.text ++ (closing.text ++ (')' :: rest.text)))))

/-- Whether there are no commas but those between arguments. -/
def isCommaFree : Terms → Bool
  | done => true
  | value _ _ rest => rest.isCommaFree
  | comma _ _ => false
  | call _ _ _ _ rest => rest.isCommaFree

/-- Whether every value is set apart from one directly before it.  `isBehind` says whether there is
one before the first. -/
def isSpaced (isBehind : Bool) : Terms → Bool
  | done => true
  | value gap _ rest => (!isBehind || !gap.text.isEmpty) && rest.isSpaced true
  | comma _ rest => rest.isSpaced false
  | call gap _ arguments _ rest =>
      (!isBehind || !gap.text.isEmpty) && (arguments.isSpaced false && rest.isSpaced true)

/-- Whether no value that begins with a word stands directly behind a colour whose digits are those
of a number.  `isBehind` says whether there is such a colour before the first value. -/
def colorsEnd (isBehind : Bool) : Terms → Bool
  | done => true
  | value _ atom rest => !(isBehind && atom.isNamed) && rest.colorsEnd atom.isNumberColor
  | comma _ rest => rest.colorsEnd false
  | call _ _ arguments _ rest =>
      !isBehind && (arguments.colorsEnd false && rest.colorsEnd false)

end Terms

/-! ## Declarations -/

/-- A name, a colon and values that are set apart. -/
structure Entry where
  before : Gap
  name : Name
  middle : Gap
  terms : Terms
  after : Gap
  nonempty : terms ≠ .done
  commaFree : terms.isCommaFree = true
  spaced : terms.isSpaced false = true

def Entry.text (entry : Entry) : List Char :=
  entry.before.text ++ (entry.name.text ++ (entry.middle.text ++
    (':' :: (entry.terms.text ++ entry.after.text))))

/-- What stands between two semicolons. -/
inductive Segment where
  | blank (gap : Gap)
  | declared (entry : Entry)

namespace Segment

def text : Segment → List Char
  | blank gap => gap.text
  | declared entry => entry.text

def entry? : Segment → Option Entry
  | blank _ => none
  | declared entry => some entry

end Segment

/-- Segments that end with semicolons, and one that ends with the text. -/
structure Source where
  ended : List Segment
  last : Segment

namespace Source

/-- The text of segments with their semicolons, before the last one. -/
def textFrom (last : Segment) : List Segment → List Char
  | [] => last.text
  | segment :: rest => segment.text ++ (';' :: textFrom last rest)

def text (source : Source) : String := String.ofList (textFrom source.last source.ended)

def entries (source : Source) : List Entry :=
  (source.ended ++ [source.last]).filterMap Segment.entry?

/-- No value that begins with a word stands directly behind a colour whose digits are those of a
number. -/
def ColorsEnd (source : Source) : Prop :=
  ∀ entry ∈ source.entries, entry.terms.colorsEnd false = true

end Source

/-! ## Values are lexemes of style text -/

theorem isIdentifierRest_of_mem_dashedText {parts : List Part} {c : Char}
    (h : c ∈ dashedText parts) :
    Style.isIdentifierRest c = true := by
  obtain ⟨part, -, hc⟩ := List.mem_flatMap.mp h
  rcases List.mem_cons.mp hc with rfl | hc
  · rfl
  · have hletter : isLetterOrDigit c = true := by
      rcases List.mem_cons.mp hc with rfl | hc
      · exact isLetterOrDigit_of_isLetter part.letter
      · exact part.letters c hc
    simp only [isLetterOrDigit, Bool.or_eq_true] at hletter
    simp only [Style.isIdentifierRest, Bool.or_eq_true]
    exact Or.inl hletter

theorem Name.matches_text (name : Name) : TokenKind.identifier.pattern.Matches name.text := by
  have hrest : ∀ c ∈ name.first.rest ++ dashedText name.more, Style.isIdentifierRest c = true := by
    intro c hc
    rcases List.mem_append.mp hc with hc | hc
    · have hletter := name.first.letters c hc
      simp only [isLetterOrDigit, Bool.or_eq_true] at hletter
      simp only [Style.isIdentifierRest, Bool.or_eq_true]
      exact Or.inl hletter
    · exact isIdentifierRest_of_mem_dashedText hc
  have hfirst : Pattern.Matches (.one Style.isIdentifierStart) [name.first.first] :=
    .one name.first.letter
  have hname := Pattern.Matches.seq hfirst (Pattern.matches_many_one hrest)
  exact hname

/-- The name as a lexeme. -/
def Name.lexeme (name : Name) : Style.Lexeme :=
  .ofMatches (List.cons_ne_nil _ _) name.matches_text

namespace Number

variable (number : Number)

/-- The number without its unit. -/
def decimal : List Char :=
  number.sign ++ (number.whole ++ if number.fraction = [] then [] else '.' :: number.fraction)

def unit : List Char := number.letters ++ number.percent

theorem decimal_append_unit : number.decimal ++ number.unit = number.text := by
  simp [decimal, unit, text, unsigned, unsignedText]

theorem matches_decimal : Style.numberPattern.Matches number.decimal := by
  have hsign : (Pattern.optional (.char '-')).Matches number.sign := by
    unfold sign
    split
    · exact .left (.one rfl)
    · exact .right .empty
  have hwhole : (Pattern.some (.one Char.isDigit)).Matches number.whole :=
    Pattern.matches_some_one number.whole_ne_nil number.whole_digits
  have hpoint : (Pattern.optional (.seq (.char '.') (.some (.one Char.isDigit)))).Matches
      (if number.fraction = [] then [] else '.' :: number.fraction) := by
    split
    case isTrue => exact .right .empty
    case isFalse hfraction =>
      have hdigits := Pattern.matches_some_one hfraction number.fraction_digits
      exact .left (.seq (.one rfl) hdigits)
  exact .seq hsign (.seq hwhole hpoint)

theorem matches_text :
    (if number.letters = [] ∧ number.isPercentage = false then TokenKind.number
      else TokenKind.dimension).pattern.Matches number.text := by
  rw [← number.decimal_append_unit]
  split
  case isTrue h =>
    have hunit : number.unit = [] := by simp [unit, percent, h.1, h.2]
    rw [hunit, List.append_nil]
    exact number.matches_decimal
  case isFalse h =>
    refine .seq number.matches_decimal ?_
    cases hpercentage : number.isPercentage with
    | true =>
        have hunit : number.unit = ['%'] := by
          simp [unit, percent, hpercentage, number.oneUnit hpercentage]
        rw [hunit]
        exact .left (.one rfl)
    | false =>
        have hletters : number.letters ≠ [] := fun hnil => h ⟨hnil, hpercentage⟩
        have hunit : number.unit = number.letters := by simp [unit, percent, hpercentage]
        rw [hunit]
        exact .right (Pattern.matches_some_one hletters number.alphabetic)

end Number

theorem Quote.ne_quote (quote : Quote) : ∀ c ∈ quote.contents, c ≠ '"' ∧ c ≠ '\\' ∧ c ≠ '\r' := by
  intro c hc
  have hplain := quote.plain c hc
  refine ⟨?_, ?_, ?_⟩ <;> rintro rfl <;> cases hplain

namespace Atom

theorem matches_text (atom : Atom) : atom.kind.pattern.Matches atom.text := by
  cases atom with
  | named name => exact name.matches_text
  | numeric number => exact number.matches_text
  | colored color =>
      have hdigits : (Pattern.between (.one isHexDigit) 5 3).Matches color.digits :=
        Pattern.matches_between_one_iff.mpr ⟨color.hexadecimal, color.three_le, color.le_eight⟩
      exact .seq (.one rfl) hdigits
  | quoted quote =>
      have hcontents : ∀ c ∈ quote.contents, (c != '"') = true := by
        intro c hc
        simpa using (quote.ne_quote c hc).1
      exact .seq (.one rfl) (.seq (Pattern.matches_many_one hcontents) (.one rfl))
  | important =>
      have hwhole : TokenKind.important.pattern.longest? importantText = some 10 := by decide
      exact (Pattern.longest?_eq_some_iff.mp hwhole).1.2

theorem text_ne_nil (atom : Atom) : atom.text ≠ [] := by
  cases atom with
  | named name => simp [text, Name.text, Part.text]
  | colored color => simp [text]
  | quoted quote => simp [text]
  | numeric number =>
      have hwhole := number.whole_ne_nil
      simp [text, Number.text, Number.unsigned, unsignedText, hwhole]
  | important => simp [text, importantText]

/-- The value as a lexeme. -/
def lexeme (atom : Atom) : Style.Lexeme := .ofMatches atom.text_ne_nil atom.matches_text

theorem isWordKind_kind (atom : Atom) : isWordKind atom.kind = true := by
  cases atom with
  | numeric number =>
      rw [kind]
      split <;> rfl
  | named | colored | quoted | important => rfl

end Atom

/-- The values without their gaps. -/
def Terms.wording : Terms → Wording
  | done => .done
  | value _ atom rest => .word atom.lexeme atom.isWordKind_kind rest.wording
  | comma _ rest => .comma rest.wording
  | call _ name arguments _ rest => .call name.lexeme rfl arguments.wording rest.wording

theorem Terms.wording_ne_done {terms : Terms} (h : terms ≠ .done) : terms.wording ≠ .done := by
  cases terms with
  | done => exact absurd rfl h
  | value | comma | call => simp [wording]

end Storyboard.Sheet
