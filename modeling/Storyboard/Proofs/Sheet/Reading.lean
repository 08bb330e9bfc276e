import Mathlib.Data.List.Nodup
import Storyboard.Proofs.Sheet.Boundaries
import Storyboard.Proofs.Sheet.Cutting
import Storyboard.Sheet.Expansion

/-!
# Sources read as sheets

Reading the code of a source gives its declarations.  A value takes all the code it can, so each
value has to be read with the code behind it: no value begins with what goes on with the one before
it, but for a word behind a colour whose digits are those of a number, and that is what
`Terms.colorsEnd` excludes.
-/

namespace Storyboard.Sheet

open Storyboard.Code Storyboard.Text

variable {rest : Code} {behind : List Char}

/-! ## Values of a source are values -/

theorem isDashed_dashedCode (first : Part) (parts : List Part) :
    IsDashed (String.ofList (first.text ++ dashedText parts))
      (.token (.word first.spelling) (dashedCode parts)) := by
  have hfirst : first.spelling ≠ "" := by simp [Part.spelling, Part.text]
  induction parts generalizing first with
  | nil =>
      have htext : first.text ++ dashedText [] = first.text := List.append_nil _
      rw [htext]
      exact .word first.isName hfirst
  | cons next parts ih =>
      have hnext : next.spelling ≠ "" := by simp [Part.spelling, Part.text]
      have hdash := IsDashed.dash false first.isName hfirst (ih next hnext)
      have htext : first.spelling ++ "-" ++ String.ofList (next.text ++ dashedText parts) =
          String.ofList (first.text ++ dashedText (next :: parts)) := by
        simp [Part.spelling, dashedText, String.append_assoc]
      exact htext ▸ hdash

theorem Name.isDashed (name : Name) : IsDashed (String.ofList name.text) name.code :=
  isDashed_dashedCode name.first name.more

theorem Number.isUnsigned (number : Number) (behind : List Char) :
    IsUnsigned (String.ofList (number.unsigned ++ number.percent))
      (number.unsignedCode behind) := by
  unfold unsignedCode percentCode percent
  split
  case isTrue =>
    rw [String.ofList_append]
    exact .percentage _ _
  case isFalse =>
    rw [List.append_nil]
    exact .number _

theorem flatMap_quoteChar {text : List Char} (h : ∀ c ∈ text, quoteChar c = [c]) :
    text.flatMap quoteChar = text := by
  induction text with
  | nil => rfl
  | cons c text ih =>
      rw [List.flatMap_cons, h c List.mem_cons_self, ih fun d hd => h d (List.mem_cons_of_mem c hd)]
      rfl

namespace Atom

theorem isPiece (atom : Atom) (behind : List Char) :
    IsPiece (atom.code behind) (.plain (String.ofList atom.text)) := by
  cases atom with
  | named name => exact .name name.isDashed
  | numeric number =>
      rw [code, Number.code, text, Number.text, Number.sign]
      split
      case isTrue =>
        rw [String.ofList_append]
        exact .negative false (number.isUnsigned behind)
      case isFalse => exact .number (number.isUnsigned behind)
  | colored color =>
      have hdigits : AreDigits (String.ofList color.digits) := by
        intro c hc
        exact color.hexadecimal c (by simpa using hc)
      have htext : "#" ++ String.ofList color.digits = String.ofList ('#' :: color.digits) :=
        by simp
      rw [code, text, Color.code, Color.digitsToken, ← htext]
      split
      case isTrue => exact .numberColor false hdigits
      case isFalse => exact .wordColor false hdigits
  | quoted quote =>
      have htext : Text.quoted (String.ofList quote.contents) =
          String.ofList ('"' :: (quote.contents ++ ['"'])) := by
        simp [Text.quoted, quoteChars, flatMap_quoteChar quote.plain]
      exact htext ▸ .text (String.ofList quote.contents)
  | important => exact .important false

theorem beginsWithWord_code (atom : Atom) (behind : List Char) :
    beginsWithWord (atom.code behind) = atom.isNamed := by
  cases atom with
  | numeric number =>
      rw [code, Number.code]
      split <;> rfl
  | named | colored | quoted | important => rfl

theorem isNumberColor_code (atom : Atom) (behind : List Char) :
    Sheet.isNumberColor (atom.code behind) = atom.isNumberColor := by
  cases atom with
  | numeric number =>
      rw [code, Number.code]
      split <;> rfl
  | colored color =>
      rw [code, Color.code, Color.digitsToken, isNumberColor]
      cases color.isNumber <;> rfl
  | named | quoted | important => rfl

end Atom

/-! ## Several values -/

namespace Terms

variable {terms : Terms}

/-- No value begins with what goes on with the one before it. -/
theorem goesOn_code (terms : Terms) (h : goesOn rest = false) :
    goesOn (terms.code behind ++ rest) = false := by
  cases terms with
  | done => exact h
  | comma gap terms => rfl
  | call gap name arguments closing terms => rfl
  | value gap atom terms =>
      rw [code, append_assoc]
      exact (atom.isPiece _).goesOn_append _

/-- What may stand behind a colour whose digits are a number does not begin with a word. -/
theorem beginsWithWord_code (hcolors : terms.colorsEnd true = true)
    (h : beginsWithWord rest = false) :
    beginsWithWord (terms.code behind ++ rest) = false := by
  cases terms with
  | done => exact h
  | comma gap terms => rfl
  | call gap name arguments closing terms => cases hcolors
  | value gap atom terms =>
      simp only [colorsEnd, Bool.true_and, Bool.and_eq_true, Bool.not_eq_true'] at hcolors
      rw [code, append_assoc, (atom.isPiece _).beginsWithWord_append, atom.beginsWithWord_code]
      exact hcolors.1

/-- A value is read as its text before any values that may stand behind it. -/
theorem piece_value {atom : Atom} (before behind : List Char)
    (hcolors : terms.colorsEnd atom.isNumberColor = true) (hgoesOn : goesOn rest = false)
    (hword : beginsWithWord rest = false) :
    piece (atom.code before ++ (terms.code behind ++ rest)) =
      .ok (.plain (String.ofList atom.text), terms.code behind ++ rest) := by
  apply piece_of_isPiece (atom.isPiece before) (terms.goesOn_code hgoesOn)
  intro hcolor
  rw [← atom.isNumberColor_code before, hcolor] at hcolors
  exact beginsWithWord_code hcolors hword

/-- Arguments are read as the values they are. -/
theorem readArguments_code (behind : List Char) {isBehind : Bool}
    (hcolors : terms.colorsEnd isBehind = true) :
    readArguments (terms.code behind) = .ok terms.wording.values := by
  induction terms generalizing isBehind behind with
  | done =>
      rw [code, readArguments]
      rfl
  | comma gap terms ih => exact readArguments_comma (ih behind hcolors)
  | value gap atom terms ih =>
      simp only [colorsEnd, Bool.and_eq_true] at hcolors
      have hpiece : piece (atom.code (terms.text ++ behind) ++ (terms.code behind ++ .done)) = _ :=
        piece_value (terms.text ++ behind) behind hcolors.2 rfl rfl
      rw [append_done] at hpiece
      rw [code, readArguments_of_piece hpiece, ih behind hcolors.2]
      rfl
  | call gap name arguments closing terms ihArguments ihTerms =>
      simp only [colorsEnd, Bool.and_eq_true] at hcolors
      rw [code, readArguments_of_piece (piece_call name.isDashed _ _), Piece.value,
        ihArguments _ hcolors.2.1, ihTerms behind hcolors.2.2]
      rfl

/-- The values of a property are read up to the end of it. -/
theorem readValues_code {isBehind : Bool} (hcommas : terms.isCommaFree = true)
    (hcolors : terms.colorsEnd isBehind = true) (hrest : readValues rest = .ok ([], rest))
    (hgoesOn : goesOn rest = false) (hword : beginsWithWord rest = false) :
    readValues (terms.code behind ++ rest) = .ok (terms.wording.values, rest) := by
  induction terms generalizing isBehind with
  | done => exact hrest
  | comma gap terms ih => cases hcommas
  | value gap atom terms ih =>
      simp only [colorsEnd, Bool.and_eq_true] at hcolors
      have hpiece : piece (atom.code (terms.text ++ behind) ++ (terms.code behind ++ rest)) = _ :=
        piece_value (terms.text ++ behind) behind hcolors.2 hgoesOn hword
      rw [code, append_assoc, readValues_of_piece hpiece, ih hcommas hcolors.2]
      rfl
  | call gap name arguments closing terms ihArguments ihTerms =>
      simp only [colorsEnd, Bool.and_eq_true] at hcolors
      rw [code, append_assoc, group_append, readValues_of_piece (piece_call name.isDashed _ _),
        Piece.value, readArguments_code _ hcolors.2.1, ihTerms hcommas hcolors.2.2]
      rfl

end Terms

/-! ## Declarations -/

namespace Entry

variable {entry : Entry}

/-- What a declaration declares. -/
def declaration (entry : Entry) : Declaration :=
  ⟨String.ofList entry.name.text, entry.terms.wording.values⟩

theorem readDeclaration_code {last : Code} (hends : Ends rest last)
    (hcolors : entry.terms.colorsEnd false = true) :
    readDeclaration (entry.code behind ++ rest) = .ok (entry.declaration, last) := by
  have hvalues : readValues (entry.terms.code (entry.after.text ++ behind) ++ rest) =
      .ok (entry.terms.wording.values, rest) :=
    Terms.readValues_code entry.commaFree hcolors hends.readValues_eq hends.goesOn_eq
      hends.beginsWithWord_eq
  have hnonempty := Wording.values_ne_nil (Terms.wording_ne_done entry.nonempty)
  rw [code, append_assoc, token_append]
  exact readDeclaration_eq _ entry.name.isDashed hends hvalues hnonempty

end Entry

/-- A declaration is the first of those that are read. -/
theorem readDeclarations_cons {code : Code} {declaration : Declaration}
    {declarations : List Declaration} (hread : readDeclaration code = .ok (declaration, rest))
    (hrest : readDeclarations rest = .ok declarations) :
    readDeclarations code = .ok (declaration :: declarations) := by
  unfold readDeclarations
  split
  case h_1 => cases hread
  case h_2 => cases hread
  case h_3 =>
    split
    case h_1 heq =>
      rw [hread] at heq
      cases heq
    case h_2 heq =>
      rw [hread] at heq
      cases heq
      rw [hrest]
      rfl

theorem readDeclarations_semicolon (isJoined : Bool) (rest : Code) :
    readDeclarations (.token (.sign ';' isJoined) rest) = readDeclarations rest := by
  rw [readDeclarations]

namespace Source

/-- The declarations of a source are read in their order. -/
theorem readDeclarations_codeFrom (last : Segment) (ended : List Segment)
    (hcolors : ∀ entry ∈ (ended ++ [last]).filterMap Segment.entry?,
      entry.terms.colorsEnd false = true) :
    readDeclarations (codeFrom last ended) =
      .ok (((ended ++ [last]).filterMap Segment.entry?).map Entry.declaration) := by
  induction ended with
  | nil =>
      have hdone : readDeclarations .done = .ok [] := by rw [readDeclarations]
      cases last with
      | blank gap => exact hdone
      | declared entry =>
          have hread : readDeclaration (entry.code [] ++ .done) = .ok (entry.declaration, .done) :=
            entry.readDeclaration_code .done (hcolors entry (by simp [Segment.entry?]))
          rw [append_done] at hread
          exact readDeclarations_cons hread hdone
  | cons segment ended ih =>
      cases segment with
      | blank gap =>
          rw [codeFrom, Segment.code, done_append, readDeclarations_semicolon]
          exact ih hcolors
      | declared entry =>
          simp only [List.cons_append, List.filterMap_cons, Segment.entry?,
            List.forall_mem_cons] at hcolors
          have hread : readDeclaration (entry.code (';' :: textFrom last ended) ++
              .token (.sign ';' (startsSign (textFrom last ended))) (codeFrom last ended)) =
              .ok (entry.declaration, codeFrom last ended) :=
            entry.readDeclaration_code .semicolon hcolors.1
          exact readDeclarations_cons hread (ih hcolors.2)

end Source

/-! ## Sheets -/

/-- No property is declared again if the properties are new and different. -/
theorem declaredAgain?_eq_none_iff {declarations : List Declaration} {before : List String} :
    declaredAgain? before declarations = none ↔
      (∀ declaration ∈ declarations, declaration.property ∉ before) ∧
        (declarations.map Declaration.property).Nodup := by
  induction declarations generalizing before with
  | nil => simp [declaredAgain?]
  | cons declaration declarations ih =>
      rw [declaredAgain?]
      by_cases hdeclared : declaration.property ∈ before
      · simp [hdeclared]
      · -- the first property is one of those that the rest must not declare
        have hsplit : (∀ other ∈ declarations, other.property ∉ declaration.property :: before) ↔
            declaration.property ∉ declarations.map Declaration.property ∧
              ∀ other ∈ declarations, other.property ∉ before := by
          simp only [List.mem_cons, not_or, List.mem_map, not_exists, not_and]
          exact
            ⟨fun h => ⟨fun other hother => (h other hother).1,
              fun other hother => (h other hother).2⟩,
            fun h other hother => ⟨h.1 other hother, h.2 other hother⟩⟩
        rw [if_neg (by simpa using hdeclared), ih, hsplit, List.forall_mem_cons, List.map_cons,
          List.nodup_cons]
        tauto

theorem expandCode_of_readDeclarations {code : Code} {declarations : List Declaration}
    (hread : readDeclarations code = .ok declarations) (hnonempty : declarations ≠ [])
    (hdistinct : (declarations.map Declaration.property).Nodup) :
    expandCode code = .ok (expansion declarations) := by
  obtain ⟨first, rest, rfl⟩ := List.exists_cons_of_ne_nil hnonempty
  rw [expandCode, hread]
  have hnone : declaredAgain? [] (first :: rest) = none :=
    declaredAgain?_eq_none_iff.mpr ⟨fun _ _ => List.not_mem_nil, hdistinct⟩
  simp only [hnone]

namespace Source

def declarations (source : Source) : List Declaration := source.entries.map Entry.declaration

/-- A source is accepted as a sheet, and it expands to the code of its declarations. -/
theorem expand_text {source : Source} (hnonempty : source.entries ≠ [])
    (hdistinct : (source.entries.map fun entry => entry.name.text).Nodup)
    (hcolors : source.ColorsEnd) : expand source.text = .ok (expansion source.declarations) := by
  have hread : readDeclarations source.code = .ok source.declarations :=
    readDeclarations_codeFrom source.last source.ended hcolors
  have hproperties : (source.declarations.map Declaration.property).Nodup := by
    have hmap : source.declarations.map Declaration.property =
        (source.entries.map fun entry => entry.name.text).map String.ofList := by
      simp [declarations, Entry.declaration, Function.comp_def]
    rw [hmap]
    have hinjective : Function.Injective String.ofList := fun first second heq => by
      simpa using congrArg String.toList heq
    exact List.Nodup.map hinjective hdistinct
  have hdeclarations : source.declarations ≠ [] := by
    simpa [declarations] using hnonempty
  rw [expand, readAs, source.read?_text]
  exact expandCode_of_readDeclarations hread hdeclarations hproperties

end Source

end Storyboard.Sheet
