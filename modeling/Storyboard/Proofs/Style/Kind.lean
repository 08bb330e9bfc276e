import Storyboard.Proofs.Style.Lexeme

/-!
# The kind of a token

A text fits the pattern of at most one kind (`eq_of_matches`), so the kind of a token is given by
its text.  The first character of the text tells all kinds apart but numbers and dimensions
(`TokenKind.leading?`), and these two differ in the unit, which is made of characters that no number
has.
-/

namespace Storyboard.Style

open Storyboard.Text

namespace TokenKind

/-- The kind that a dimension shares its first characters with, or else the kind itself. -/
def stem : TokenKind → TokenKind
  | .dimension => .number
  | kind => kind

/-- The kind of a token that begins with the character; dimensions are not told from numbers. -/
def leading? (c : Char) : Option TokenKind :=
  if c == '-' || c.isDigit then some .number
  else if isIdentifierStart c then some .identifier
  else
    [('!', .important), ('#', .hexColor), ('"', .text), ('\'', .singleQuotedText),
      ('(', .openingParenthesis), (')', .closingParenthesis), (':', .colon), (';', .semicolon),
      (',', .comma)].lookup c

variable {c : Char} {text : List Char} {kind other : TokenKind}

theorem not_number_of_isIdentifierStart (h : isIdentifierStart c = true) :
    (c == '-' || c.isDigit) = false := by
  rw [isIdentifierStart, Bool.or_eq_true, beq_iff_eq] at h
  rcases h with hletter | rfl
  · have hminus : c ≠ '-' := by
      rintro rfl
      revert hletter
      decide
    have hdigit : c.isDigit = false := by
      have halpha : c.isAlpha = (decide (c.val ≥ 'A'.val ∧ c.val ≤ 'Z'.val) ||
          (decide (c.val ≥ 'a'.val) && decide (c.val ≤ 'z'.val))) := rfl
      simp only [halpha, Char.isDigit, Bool.or_eq_true, Bool.and_eq_true, decide_eq_true_eq,
        UInt32.le_iff_toNat_le, Bool.and_eq_false_iff, decide_eq_false_iff_not] at hletter ⊢
      simp at hletter ⊢
      omega
    simp [hminus, hdigit]
  · rfl

theorem leading?_of_starts (h : kind.pattern.starts c = true) : leading? c = some kind.stem := by
  cases kind with
  | number | dimension =>
      have hnumber : (c == '-' || c.isDigit) = true := by
        simpa [pattern, numberPattern, Pattern.starts, Pattern.optional, Pattern.some,
          Pattern.char, Pattern.nullable] using h
      rw [leading?, if_pos hnumber]
      rfl
  | identifier =>
      have hstart : isIdentifierStart c = true := by
        simpa [pattern, Pattern.starts, Pattern.nullable] using h
      rw [leading?, not_number_of_isIdentifierStart hstart, if_pos hstart]
      rfl
  | important | hexColor | text | singleQuotedText | openingParenthesis | closingParenthesis | colon
    | semicolon | comma =>
      -- one character begins all texts of the kind
      simp [pattern, quotedPattern, Pattern.word, Pattern.starts, Pattern.char,
        Pattern.nullable] at h
      subst h
      decide

theorem not_occurs_of_isAlpha (h : c.isAlpha = true) : numberPattern.occurs c = false := by
  have hstart : isIdentifierStart c = true := by simp [isIdentifierStart, h]
  have hnot := not_number_of_isIdentifierStart hstart
  have hpoint : c ≠ '.' := by
    rintro rfl
    revert h
    decide
  simp only [Bool.or_eq_false_iff, beq_eq_false_iff_ne] at hnot
  simp [numberPattern, Pattern.occurs, Pattern.optional, Pattern.some, Pattern.char, hnot, hpoint]

/-- A unit has a character that no number has. -/
theorem exists_mem_not_occurs (h : dimension.pattern.Matches text) :
    ∃ c ∈ text, numberPattern.occurs c = false := by
  obtain ⟨digits, unit, rfl, -, hunit⟩ := Pattern.matches_seq_iff.mp h
  rcases Pattern.matches_either_iff.mp hunit with hpercent | hletters
  · exact ⟨'%', by simp [Pattern.matches_char_iff.mp hpercent], by decide⟩
  · obtain ⟨first, rest, rfl, hfirst, -⟩ := Pattern.matches_seq_iff.mp hletters
    obtain ⟨letter, hletter, rfl⟩ := Pattern.matches_one_iff.mp hfirst
    exact ⟨letter, by simp, not_occurs_of_isAlpha hletter⟩

theorem not_matches_number_of_matches_dimension (h : dimension.pattern.Matches text) :
    ¬ number.pattern.Matches text := by
  intro hnumber
  obtain ⟨c, hc, hnot⟩ := exists_mem_not_occurs h
  have hoccurs : numberPattern.occurs c = true := Pattern.occurs_of_mem hnumber hc
  rw [hnot] at hoccurs
  cases hoccurs

theorem eq_of_stem_eq (h : other.stem = kind.stem) :
    other = kind ∨ (other = .number ∧ kind = .dimension) ∨
      (other = .dimension ∧ kind = .number) := by
  cases other <;> cases kind <;> simp [stem] at h ⊢

/-- A text that is not empty fits one kind at most. -/
theorem eq_of_matches (hnonempty : text ≠ []) (h : kind.pattern.Matches text)
    (hother : other.pattern.Matches text) : other = kind := by
  cases text with
  | nil => exact absurd rfl hnonempty
  | cons c rest =>
      -- the first character gives both kinds, but does not tell dimensions from numbers
      have hkind := leading?_of_starts (Pattern.starts_of_matches h)
      have hleading := leading?_of_starts (Pattern.starts_of_matches hother)
      have hstem : other.stem = kind.stem := Option.some.inj (hleading.symm.trans hkind)
      rcases eq_of_stem_eq hstem with heq | ⟨rfl, rfl⟩ | ⟨rfl, rfl⟩
      · exact heq
      · exact absurd hother (not_matches_number_of_matches_dimension h)
      · exact absurd h (not_matches_number_of_matches_dimension hother)

end TokenKind

/-! ## Lexemes by their kind -/

variable {kind : TokenKind} {text : List Char}

/-- A text that fits a kind is a token of the kind. -/
theorem firstToken?_of_matches (hnonempty : text ≠ []) (h : kind.pattern.Matches text) :
    firstToken? text = some (kind, text.length) := by
  have hfits : kind.pattern.FitsUpTo text text.length := by
    refine ⟨Nat.le_refl _, ?_⟩
    rwa [List.take_length]
  cases hfirst : firstToken? text with
  | none =>
      -- the kind itself would have been found
      have hnone := isLongest_firstToken? text
      rw [hfirst] at hnone
      obtain ⟨found, hfound, -⟩ := hfits.le_longest?
      rw [hnone kind kind.mem_all] at hfound
      cases hfound
  | some found =>
      obtain ⟨other, length⟩ := found
      have hother := fitsUpTo_of_firstToken? hfirst
      have hlength : length = text.length :=
        Nat.le_antisymm hother.1 (le_of_fitsUpTo hfirst hfits)
      subst hlength
      have hmatches := hother.2
      rw [List.take_length] at hmatches
      rw [TokenKind.eq_of_matches hnonempty h hmatches]

namespace Lexeme

/-- The lexeme of a text that fits a kind. -/
def ofMatches (hnonempty : text ≠ []) (h : kind.pattern.Matches text) : Lexeme :=
  ⟨kind, text, hnonempty, firstToken?_of_matches hnonempty h⟩

theorem leading?_eq {lexeme : Lexeme} {c : Char} {rest : List Char} (h : lexeme.text = c :: rest) :
    TokenKind.leading? c = some lexeme.kind.stem := by
  have hmatches := lexeme.matches_text
  rw [h] at hmatches
  exact TokenKind.leading?_of_starts (Pattern.starts_of_matches hmatches)

end Lexeme

end Storyboard.Style
