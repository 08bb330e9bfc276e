import Storyboard.Proofs.Style.Kind

/-!
# Tokens that go on

Whether a token goes on is decided by the next character alone.  If a longer text fits a kind and a
token at its beginning is followed there by a character that begins a token, then that token with
this one character fits a kind as well (`exists_matches_concat`).  The only longer text that needs
more than one character at once is a number that goes on with a point, and no token begins with one.
So a token that has been read before another is read before everything that begins with the same
character (`Lexeme.firstToken?_of_first`).
-/

namespace Storyboard.Style

open Storyboard.Text

variable {text more : List Char} {c : Char}

/-! ## Numbers and dimensions -/

/-- A character of a unit: a percent sign or a letter. -/
def IsUnit (c : Char) : Prop := c = '%' ∨ c.isAlpha = true

theorem IsUnit.not_occurs (h : IsUnit c) : numberPattern.occurs c = false := by
  rcases h with rfl | hletter
  · decide
  · exact TokenKind.not_occurs_of_isAlpha hletter

theorem matches_dimension_iff : TokenKind.dimension.pattern.Matches text ↔
    ∃ digits unit, text = digits ++ unit ∧ numberPattern.Matches digits ∧
      (unit = ['%'] ∨ (unit ≠ [] ∧ ∀ c ∈ unit, c.isAlpha = true)) := by
  have hunit (unit : List Char) :
      Pattern.Matches (.either (.char '%') (.some (.one Char.isAlpha))) unit ↔
        unit = ['%'] ∨ (unit ≠ [] ∧ ∀ c ∈ unit, c.isAlpha = true) := by
    rw [Pattern.matches_either_iff, Pattern.matches_char_iff]
    refine or_congr_right ⟨fun h => ⟨?_, fun c hc => ?_⟩, fun h => Pattern.matches_some_one h.1 h.2⟩
    · rintro rfl
      have hnullable := Pattern.nullable_iff.mpr h
      cases hnullable
    · have hoccurs := Pattern.occurs_of_mem h hc
      simpa [Pattern.some, Pattern.occurs] using hoccurs
  simp only [TokenKind.pattern, Pattern.matches_seq_iff, hunit]

/-- What is in a unit is a character of one. -/
theorem isUnit_of_mem {unit : List Char}
    (h : unit = ['%'] ∨ (unit ≠ [] ∧ ∀ c ∈ unit, c.isAlpha = true)) (hc : c ∈ unit) : IsUnit c := by
  rcases h with rfl | h
  · exact Or.inl (List.mem_singleton.mp hc)
  · exact Or.inr (h.2 c hc)

/-- A number goes on with a digit, or with a point. -/
theorem isDigit_of_matches_number (hnil : text ≠ []) (hpoint : c ≠ '.')
    (h : numberPattern.Matches (text ++ c :: more)) : c.isDigit = true := by
  obtain ⟨sign, digits, heq, hsign, hdigits⟩ := Pattern.matches_seq_iff.mp h
  -- the character is not the first one, so it stands behind the sign
  have hmem : c ∈ digits := by
    rcases Pattern.matches_either_iff.mp hsign with hminus | hempty
    · obtain ⟨d, tail, rfl⟩ := List.exists_cons_of_ne_nil hnil
      rw [Pattern.matches_char_iff.mp hminus] at heq
      have htail : tail ++ c :: more = digits := (List.cons.inj heq).2
      simp [← htail]
    · rw [Pattern.matches_empty_iff.mp hempty, List.nil_append] at heq
      simp [← heq]
  have hoccurs := Pattern.occurs_of_mem hdigits hmem
  simpa [Pattern.occurs, Pattern.some, Pattern.optional, Pattern.char, hpoint] using hoccurs

/-- A number goes on with a digit as a number. -/
theorem matches_number_concat (h : numberPattern.Matches text) (hc : c.isDigit = true) :
    numberPattern.Matches (text ++ [c]) := by
  have hone : Pattern.Matches (.many (.one Char.isDigit)) [c] :=
    Pattern.matches_many_one (by simpa using hc)
  obtain ⟨sign, digits, rfl, hsign, hdigits⟩ := Pattern.matches_seq_iff.mp h
  obtain ⟨whole, fraction, rfl, hwhole, hfraction⟩ := Pattern.matches_seq_iff.mp hdigits
  rw [List.append_assoc]
  refine .seq hsign ?_
  rw [List.append_assoc]
  -- the digit is the last one of the fraction if there is one, or else of the whole number
  rcases Pattern.matches_either_iff.mp hfraction with hpoint | hempty
  · obtain ⟨point, parts, rfl, hpoint, hparts⟩ := Pattern.matches_seq_iff.mp hpoint
    refine .seq hwhole (.left ?_)
    rw [List.append_assoc]
    exact .seq hpoint (Pattern.matches_some_append hparts hone)
  · rw [Pattern.matches_empty_iff.mp hempty, List.nil_append]
    have hlonger := Pattern.Matches.seq (Pattern.matches_some_append hwhole hone)
      (.right .empty :
        Pattern.Matches (.optional (.seq (.char '.') (.some (.one Char.isDigit)))) [])
    rwa [List.append_nil] at hlonger

/-- A number goes on with a unit as a dimension. -/
theorem matches_dimension_concat (h : numberPattern.Matches text) (hc : IsUnit c) :
    TokenKind.dimension.pattern.Matches (text ++ [c]) := by
  refine matches_dimension_iff.mpr ⟨text, [c], rfl, h, ?_⟩
  rcases hc with rfl | hletter
  · exact Or.inl rfl
  · exact Or.inr ⟨by simp, by simpa using hletter⟩

/-- What follows a number in a dimension is a digit, a point or a character of the unit. -/
theorem isDigit_or_isUnit_of_matches_dimension (hnil : text ≠ []) (hpoint : c ≠ '.')
    (h : TokenKind.dimension.pattern.Matches (text ++ c :: more)) :
    c.isDigit = true ∨ IsUnit c := by
  obtain ⟨digits, unit, heq, hdigits, hunit⟩ := matches_dimension_iff.mp h
  have hlast (hmem : c ∈ unit) : c.isDigit = true ∨ IsUnit c := Or.inr (isUnit_of_mem hunit hmem)
  rcases List.append_eq_append_iff.mp heq with ⟨between, rfl, hbetween⟩ | ⟨between, -, rfl⟩
  · cases between with
    | nil =>
        have hunit : c :: more = unit := hbetween
        exact hlast (by simp [← hunit])
    | cons d between =>
        obtain ⟨rfl, -⟩ := List.cons.inj hbetween
        exact Or.inl (isDigit_of_matches_number hnil hpoint hdigits)
  · exact hlast (by simp)

/-- A dimension goes on with the next character of a longer one. -/
theorem matches_dimension_of_longer (h : TokenKind.dimension.pattern.Matches text)
    (hlonger : TokenKind.dimension.pattern.Matches (text ++ c :: more)) :
    TokenKind.dimension.pattern.Matches (text ++ [c]) := by
  obtain ⟨digits, unit, rfl, hdigits, hunit⟩ := matches_dimension_iff.mp h
  obtain ⟨others, longer, heq, hothers, hlongerUnit⟩ := matches_dimension_iff.mp hlonger
  have hnil : unit ≠ [] := by
    rcases hunit with rfl | hunit
    · exact List.cons_ne_nil _ _
    · exact hunit.1
  obtain ⟨first, letters, rfl⟩ := List.exists_cons_of_ne_nil hnil
  -- the unit does not begin within the number of the longer one
  have hsuffix : first :: (letters ++ c :: more) <:+ longer := by
    rw [List.append_assoc] at heq
    rcases List.append_eq_append_iff.mp heq with ⟨between, rfl, hbetween⟩ | ⟨between, -, rfl⟩
    · cases between with
      | nil => exact ⟨[], by simpa using hbetween⟩
      | cons d between =>
          exfalso
          obtain ⟨rfl, -⟩ := List.cons.inj hbetween
          have hoccurs :=
            Pattern.occurs_of_mem hothers (List.mem_append_right digits List.mem_cons_self)
          rw [(isUnit_of_mem hunit List.mem_cons_self).not_occurs] at hoccurs
          cases hoccurs
    · exact List.suffix_append between _
  -- so both belong to a longer unit, which is made of letters
  have hletters : ∀ d ∈ first :: (letters ++ c :: more), d.isAlpha = true := by
    rcases hlongerUnit with rfl | hlongerUnit
    · have hlength := hsuffix.length_le
      simp at hlength
    · exact fun d hd => hlongerUnit.2 d (hsuffix.subset hd)
  refine matches_dimension_iff.mpr ⟨digits, first :: (letters ++ [c]), by simp, hdigits,
    Or.inr ⟨List.cons_ne_nil _ _, fun d hd => hletters d ?_⟩⟩
  simp only [List.mem_cons, List.mem_append, List.not_mem_nil, or_false] at hd ⊢
  tauto

/-! ## All kinds -/

/-- A kind that has a text and a longer one has the text with the next character, unless it is that
of numbers. -/
theorem matches_concat {kind : TokenKind} (hnil : text ≠ []) (hnumber : kind ≠ .number)
    (h : kind.pattern.Matches text) (hlonger : kind.pattern.Matches (text ++ c :: more)) :
    kind.pattern.Matches (text ++ [c]) := by
  have hform := form_of_matches h
  have hnotMark (d : Char) (hkind : kind.pattern = .char d) :
      kind.pattern.Matches (text ++ [c]) := by
    rw [hkind] at hlonger
    have hlength := congrArg List.length (Pattern.matches_char_iff.mp hlonger)
    have hpos := List.length_pos_iff.mpr hnil
    simp only [List.length_append, List.length_cons, List.length_nil] at hlength
    omega
  cases kind with
  | number => exact absurd rfl hnumber
  | dimension => exact matches_dimension_of_longer h hlonger
  | important =>
      -- the texts of the kind are all the same
      have hsame := Pattern.matches_word_iff.mp h
      have hlength := congrArg List.length (Pattern.matches_word_iff.mp hlonger)
      rw [hsame] at hlength
      simp at hlength
  | hexColor =>
      obtain ⟨hash, digits, rfl, hhash, hdigits⟩ := Pattern.matches_seq_iff.mp h
      obtain ⟨mark, others, heq, hmark, hothers⟩ := Pattern.matches_seq_iff.mp hlonger
      rw [Pattern.matches_char_iff.mp hhash, Pattern.matches_char_iff.mp hmark] at heq
      obtain rfl : digits ++ c :: more = others := by simpa using heq
      rw [Pattern.matches_between_one_iff] at hdigits hothers
      rw [List.append_assoc]
      refine .seq hhash (Pattern.matches_between_one_iff.mpr ⟨fun d hd => hothers.1 d ?_, ?_, ?_⟩)
      · simp only [List.mem_append, List.mem_cons, List.not_mem_nil, or_false] at hd ⊢
        tauto
      · simp only [List.length_append, List.length_cons] at hdigits ⊢
        omega
      · simp only [List.length_append, List.length_cons, List.length_nil] at hothers ⊢
        omega
  | identifier =>
      obtain ⟨first, letters, rfl, hfirst, hletters⟩ := Pattern.matches_seq_iff.mp h
      rw [List.append_assoc]
      refine .seq hfirst (Pattern.matches_many_one fun d hd => ?_)
      rcases List.mem_append.mp hd with hd | hd
      · have hoccurs := Pattern.occurs_of_mem hletters hd
        simpa [Pattern.occurs] using hoccurs
      · rw [List.mem_singleton.mp hd]
        have hoccurs := Pattern.occurs_of_mem hlonger (c := c) (by simp)
        simp only [TokenKind.pattern, Pattern.occurs, Bool.or_eq_true] at hoccurs
        rcases hoccurs with hstart | hrest
        · simp only [isIdentifierStart, isIdentifierRest, Char.isAlphanum, Bool.or_eq_true]
            at hstart ⊢
          tauto
        · exact hrest
  | text | singleQuotedText =>
      -- no quoted text is the beginning of a longer one
      refine absurd (form_of_matches hlonger) (not_form_append hform hnil (Or.inl fun hplain => ?_))
      obtain ⟨quote, rest, rfl, hquote, -⟩ := Pattern.matches_seq_iff.mp h
      rw [Pattern.matches_char_iff.mp hquote] at hplain
      exact hplain _ List.mem_cons_self (by decide)
  | openingParenthesis | closingParenthesis | colon | semicolon | comma => exact hnotMark _ rfl

variable {kind : TokenKind} {lexeme : Lexeme}

/-- If a lexeme is the beginning of a longer text of some kind, and the next character there begins
a token, then the lexeme with that character is a text of some kind. -/
theorem Lexeme.exists_matches_concat (hc : TokenKind.leading? c ≠ none)
    (h : kind.pattern.Matches (lexeme.text ++ c :: more)) :
    ∃ other : TokenKind, other.pattern.Matches (lexeme.text ++ [c]) := by
  have hpoint : c ≠ '.' := by
    rintro rfl
    exact hc (by decide)
  have hnil := lexeme.nonempty
  have hlexeme := lexeme.matches_text
  -- both texts begin alike, so they are of one kind, or one is a number and one a dimension
  have hstem : kind.stem = lexeme.kind.stem := by
    obtain ⟨d, rest, hcons⟩ := List.exists_cons_of_ne_nil hnil
    rw [hcons, List.cons_append] at h
    have hkind := TokenKind.leading?_of_starts (Pattern.starts_of_matches h)
    exact Option.some.inj (hkind.symm.trans (lexeme.leading?_eq hcons))
  rcases TokenKind.eq_of_stem_eq hstem with rfl | ⟨rfl, hkind⟩ | ⟨rfl, hkind⟩
  · by_cases hnumber : lexeme.kind = .number
    · rw [hnumber] at h hlexeme
      exact ⟨.number, matches_number_concat hlexeme (isDigit_of_matches_number hnil hpoint h)⟩
    · exact ⟨lexeme.kind, matches_concat hnil hnumber hlexeme h⟩
  · -- a dimension has a unit, and so it is not the beginning of a number
    exfalso
    rw [hkind] at hlexeme
    obtain ⟨d, hd, hnot⟩ := TokenKind.exists_mem_not_occurs hlexeme
    have hoccurs := Pattern.occurs_of_mem h (List.mem_append_left _ hd)
    rw [show TokenKind.number.pattern = numberPattern from rfl, hnot] at hoccurs
    cases hoccurs
  · rw [hkind] at hlexeme
    rcases isDigit_or_isUnit_of_matches_dimension hnil hpoint h with hdigit | hunit
    · exact ⟨.number, matches_number_concat hlexeme hdigit⟩
    · exact ⟨.dimension, matches_dimension_concat hlexeme hunit⟩

/-- A lexeme that is read before a token is read before everything that begins like the token. -/
theorem Lexeme.firstToken?_of_first {others : List Char} (hc : TokenKind.leading? c ≠ none)
    (h : firstToken? (lexeme.text ++ c :: more) = some (lexeme.kind, lexeme.text.length)) :
    firstToken? (lexeme.text ++ c :: others) = some (lexeme.kind, lexeme.text.length) := by
  rw [← lexeme.whole]
  apply firstToken?_append_eq
  rintro kind d later ⟨tail, htail⟩ hlonger
  obtain ⟨rfl, -⟩ := List.cons.inj htail
  obtain ⟨other, hother⟩ := exists_matches_concat hc hlonger
  -- the token read there would have been one character longer
  have hbegins : lexeme.text ++ [d] <+: lexeme.text ++ d :: more := ⟨more, by simp⟩
  have hle := le_of_fitsUpTo h (fitsUpTo_length_of_begins hbegins hother)
  rw [List.length_append, List.length_singleton] at hle
  omega

end Storyboard.Style
