import Mathlib.Data.List.TakeWhile
import Storyboard.Code.Lexeme
import Storyboard.Proofs.Code.Literal

/-!
# Cutting code from its end

What a text of code is cut into is built up from the end of the text: when the rest has been cut, a
blank, a sign, a bracket, a word, a number or a text may be put in front of it, as long as the rest
begins with something that ends it.  Words are those of ASCII letters here, so that the first
character says what begins (`cut?_of_isOrdinary`).
-/

namespace Storyboard.Code

open Storyboard.Text

variable {c : Char} {text rest : List Char} {lexemes more : List Lexeme}

theorem lexemes_append (first second : Code) :
    (first ++ second).lexemes = first.lexemes ++ second.lexemes := by
  induction first with
  | done => rfl
  | token head rest ih => simp [Code.lexemes, ih]
  | group bracket inner rest _ ih => simp [Code.lexemes, ih]

theorem lexemesFrom?_of_cut? (text : List Char)
    (hcut : cut? c (text ++ rest) = some (lexemes, text.length))
    (hrest : lexemesFrom? rest = some more) :
    lexemesFrom? (c :: (text ++ rest)) = some (lexemes ++ more) := by
  rw [lexemesFrom?, hcut]
  simp [hrest]

/-! ## Characters -/

/-- What holds of the first 128 code points holds of every ASCII character. -/
theorem of_ascii {p : Char → Bool} (h : ∀ point < 128, p (Char.ofNat point) = true)
    (hc : c.toNat < 128) : p c = true := by
  have hpoint := h c.toNat hc
  rwa [Char.ofNat_toNat] at hpoint

/-- An ASCII letter or an underscore. -/
def isLetter (c : Char) : Bool := c.isAlpha || c == '_'

/-- An ASCII letter, a digit or an underscore. -/
def isLetterOrDigit (c : Char) : Bool := c.isAlphanum || c == '_'

/-- Neither a blank, a comment, a bracket nor a quote begins with the character. -/
def isOrdinary (c : Char) : Bool :=
  c != '(' && !blank.contains c && c != '\u200e' && c != '\u200f' && c != '/'
    && (Bracket.ofOpening? c).isNone && (Bracket.ofClosing? c).isNone && c != '"' && c != '\''

theorem isLetterOrDigit_of_isLetter (h : isLetter c = true) : isLetterOrDigit c = true := by
  simp only [isLetter, isLetterOrDigit, Char.isAlphanum, Bool.or_eq_true] at h ⊢
  rcases h with h | h <;> simp [h]

theorem toNat_lt_of_isLetterOrDigit (h : isLetterOrDigit c = true) : c.toNat < 128 := by
  have halpha : c.isAlpha = (decide (c.val ≥ 'A'.val ∧ c.val ≤ 'Z'.val) ||
      (decide (c.val ≥ 'a'.val) && decide (c.val ≤ 'z'.val))) := rfl
  simp only [isLetterOrDigit, Char.isAlphanum, halpha, Char.isDigit, Bool.or_eq_true,
    Bool.and_eq_true, decide_eq_true_eq, UInt32.le_iff_toNat_le, beq_iff_eq] at h
  rcases h with h | rfl
  · have hpoint : c.toNat = c.val.toNat := rfl
    have hupper : 'Z'.val.toNat = 90 := rfl
    have hlower : 'z'.val.toNat = 122 := rfl
    have hdigit : '9'.val.toNat = 57 := rfl
    omega
  · decide

/-- What holds of every letter and digit among the first 128 code points holds of all of them. -/
theorem of_isLetterOrDigit {p : Char → Bool}
    (hall : ∀ point < 128, (!isLetterOrDigit (Char.ofNat point) || p (Char.ofNat point)) = true)
    (h : isLetterOrDigit c = true) : p c = true := by
  have hc := of_ascii (p := fun c => !isLetterOrDigit c || p c) hall (toNat_lt_of_isLetterOrDigit h)
  simpa [h] using hc

/-- Letters and digits are no signs, and words go on with all of them; they begin with the letters.
-/
theorem isOrdinary_of_isLetterOrDigit (h : isLetterOrDigit c = true) :
    isOrdinary c = true ∧ isSign c = false ∧ isWordRest c = true ∧ isWordStart c = isLetter c := by
  have hall : (isOrdinary c && !isSign c && isWordRest c && isWordStart c == isLetter c) = true :=
    of_isLetterOrDigit (p := fun c => isOrdinary c && !isSign c && isWordRest c &&
      isWordStart c == isLetter c) (by decide +kernel) h
  simpa [and_assoc] using hall

theorem isWordStart_of_isLetter (h : isLetter c = true) : isWordStart c = true := by
  obtain ⟨-, -, -, hstart⟩ := isOrdinary_of_isLetterOrDigit (isLetterOrDigit_of_isLetter h)
  rw [hstart, h]

theorem isLetterOrDigit_of_isDigit (h : c.isDigit = true) : isLetterOrDigit c = true := by
  simp [isLetterOrDigit, Char.isAlphanum, h]

theorem isLetter_of_isDigit (h : c.isDigit = true) : isLetter c = false := by
  have hnot : (!isLetter c || !c.isDigit) = true :=
    of_ascii (p := fun c => !isLetter c || !c.isDigit) (by decide)
      (toNat_lt_of_isLetterOrDigit (isLetterOrDigit_of_isDigit h))
  simpa [h] using hnot

theorem isWordStart_of_isDigit (h : c.isDigit = true) : isWordStart c = false := by
  obtain ⟨-, -, -, hstart⟩ := isOrdinary_of_isLetterOrDigit (isLetterOrDigit_of_isDigit h)
  rw [hstart, isLetter_of_isDigit h]

/-- What begins with an ordinary character and is no marked literal is a number, a sign or a word.
-/
theorem cut?_of_isOrdinary (h : isOrdinary c = true) {input : List Char}
    (hraw : c = 'r' → rawText? .characters input = none)
    (hmarked : markedLength? (c :: input) = none) :
    cut? c input =
      match numberLength? (c :: input) with
      | some length =>
          some ([.token (.number (String.ofList ((c :: input).take length)))], length - 1)
      | none => if isSign c then some (signCut c input) else word? (c :: input) := by
  simp only [isOrdinary, Bool.and_eq_true, bne_iff_ne, Option.isNone_iff_eq_none,
    Bool.not_eq_true'] at h
  obtain ⟨⟨⟨⟨⟨⟨⟨⟨hround, hblank⟩, hleft⟩, hright⟩, hslash⟩, hopening⟩, hclosing⟩, hquote⟩,
    hapostrophe⟩ := h
  have herror : ¬ errorSpelling.isPrefixOf (c :: input) = true := by
    rw [show errorSpelling = '(' :: "/*ERROR*/)".toList from rfl, List.isPrefixOf_cons_cons]
    simp [Ne.symm hround]
  have hblanks : ¬ (blank.contains c || c == '\u200e' || c == '\u200f') = true := by
    simp [hblank, hleft, hright]
  have hraw : (if c == 'r' then rawText? .characters input else none) = none := by
    simpa using hraw
  unfold cut?
  rw [if_neg herror, if_neg hblanks, if_neg (by simpa using hslash), hopening, hclosing]
  simp only
  rw [if_neg (by simpa using hquote), if_neg (by simpa using hapostrophe), hraw, hmarked]
  cases numberLength? (c :: input) <;> rfl

/-! ## Words -/

theorem rawText?_eq_none {content : Content} {input : List Char}
    (h : ∀ c ∈ input.head?, c ≠ '#' ∧ c ≠ '"') : rawText? content input = none := by
  cases input with
  | nil => rfl
  | cons c input =>
      obtain ⟨hhash, hquote⟩ := h c rfl
      simp [rawText?, hhash, hquote]

/-- The characters that make a literal of the letters before them. -/
def literalMarkers : List Char := ['#', '"', '\'']

/-- Characters that no word goes on with, and that make no literal of it. -/
def nameEnds : List Char := wordEnds.filter (!literalMarkers.contains ·)

theorem Follows.of_name (h : Follows nameEnds rest) : Follows wordEnds rest :=
  fun c hc => (List.mem_filter.mp (h c hc)).1

/-- Behind the letters of a word stands nothing that would make a literal of them. -/
theorem append_ne_marked (letters : List Char) {behind : List Char}
    (htext : ∀ c ∈ text, isLetterOrDigit c = true)
    (hrest : Follows nameEnds rest) (hletters : ∀ c ∈ letters, isLetterOrDigit c = true)
    (hc : c ∈ literalMarkers) : text ++ rest ≠ letters ++ c :: behind := by
  intro heq
  induction letters generalizing text with
  | nil =>
      cases text with
      | nil =>
          have hend : c ∈ nameEnds := by
            rw [List.nil_append] at heq
            rw [heq] at hrest
            exact follows_cons_iff.mp hrest
          have hdisjoint : ∀ c ∈ literalMarkers, c ∉ nameEnds :=
            List.all_iff_forall_prop.mp (by decide)
          exact hdisjoint c hc hend
      | cons d text =>
          obtain ⟨rfl, -⟩ := List.cons.inj heq
          have hnot : ∀ c ∈ literalMarkers, isLetterOrDigit c = false :=
            List.all_iff_forall_prop.mp (by decide)
          have hletter := htext d List.mem_cons_self
          rw [hnot d hc] at hletter
          cases hletter
  | cons letter letters ih =>
      have hletter := hletters letter List.mem_cons_self
      cases text with
      | nil =>
          have hend : letter ∈ nameEnds := by
            rw [List.nil_append] at heq
            rw [heq] at hrest
            exact follows_cons_iff.mp hrest
          have hnot : ∀ c ∈ nameEnds, isLetterOrDigit c = false :=
            List.all_iff_forall_prop.mp (by decide)
          rw [hnot letter hend] at hletter
          cases hletter
      | cons d text =>
          obtain ⟨-, hbehind⟩ := List.cons.inj heq
          exact ih (fun c hc => htext c (List.mem_cons_of_mem d hc))
            (fun c hc => hletters c (List.mem_cons_of_mem letter hc)) hbehind

section Words

variable (htext : ∀ c ∈ text, isLetterOrDigit c = true) (hrest : Follows nameEnds rest)
include htext hrest

theorem rawText?_append {content : Content} : rawText? content (text ++ rest) = none := by
  apply rawText?_eq_none
  intro c hc
  obtain ⟨behind, hbehind⟩ : ∃ behind, text ++ rest = c :: behind :=
    List.head?_eq_some_iff.mp hc
  have hmarker : c ∉ literalMarkers := fun hmarker =>
    append_ne_marked [] htext hrest (by simp) hmarker hbehind
  simp only [literalMarkers, List.mem_cons, not_or] at hmarker
  exact ⟨hmarker.1, hmarker.2.1⟩

theorem markedLength?_append : markedLength? (text ++ rest) = none := by
  have hquoted {letter mark : Char} {behind : List Char} (hletter : isLetterOrDigit letter = true)
      (hmark : mark ∈ literalMarkers) : text ++ rest ≠ letter :: mark :: behind :=
    append_ne_marked [letter] htext hrest (by simpa using hletter) hmark
  have hraw {content : Content} {letter : Char} {behind : List Char}
      (hletter : isLetterOrDigit letter = true) (heq : text ++ rest = letter :: 'r' :: behind) :
      rawText? content behind = none := by
    apply rawText?_eq_none
    intro c hc
    obtain ⟨behind, rfl⟩ := List.head?_eq_some_iff.mp hc
    have hmarker : c ∉ literalMarkers := fun hmarker =>
      append_ne_marked [letter, 'r'] htext hrest
        (by simp only [List.forall_mem_cons]; exact ⟨hletter, rfl, by simp⟩) hmarker heq
    simp only [literalMarkers, List.mem_cons, not_or] at hmarker
    exact ⟨hmarker.1, hmarker.2.1⟩
  generalize hinput : text ++ rest = input at *
  unfold markedLength?
  split
  · exact absurd rfl (hquoted (by decide) (by decide))
  · rw [hraw (by decide) rfl, Option.map_none]
  · exact absurd rfl (hquoted (by decide) (by decide))
  · rw [hraw (by decide) rfl, Option.map_none]
  · exact absurd rfl (hquoted (by decide) (by decide))
  · rfl

theorem literalMarks_append :
    (literalMarks.any fun mark => mark.toList.isPrefixOf (text ++ rest)) = false := by
  -- every mark is some letters and a marker
  have hmarks : ∀ mark ∈ literalMarks,
      ((mark.toList.dropWhile isLetterOrDigit).head?.any literalMarkers.contains) = true := by
    decide
  rw [List.any_eq_false]
  intro mark hmark hbegins
  have hletters : ∀ c ∈ mark.toList.takeWhile isLetterOrDigit, isLetterOrDigit c = true :=
    fun _ => List.mem_takeWhile_imp
  obtain ⟨c, hc, hmem⟩ := (Option.any_eq_true _ _).mp (hmarks mark hmark)
  obtain ⟨last, hlast⟩ := List.head?_eq_some_iff.mp hc
  obtain ⟨behind, hbehind⟩ := List.isPrefixOf_iff_prefix.mp hbegins
  rw [← List.takeWhile_append_dropWhile (p := isLetterOrDigit) (l := mark.toList), hlast,
    List.append_assoc, List.cons_append] at hbehind
  exact append_ne_marked _ htext hrest hletters (List.contains_iff_mem.mp hmem) hbehind.symm

end Words

theorem wordLength_letters (hc : isLetter c = true) (htext : ∀ d ∈ text, isLetterOrDigit d = true)
    (hrest : Follows nameEnds rest) : wordLength (c :: (text ++ rest)) = text.length + 1 := by
  have hword : wordLength (c :: (text ++ rest)) = wordLength (c :: text) :=
    wordLength_append (c :: text) hrest.of_name
  have hall : text.takeWhile isWordRest = text :=
    List.takeWhile_eq_self_iff.mpr fun d hd => (isOrdinary_of_isLetterOrDigit (htext d hd)).2.2.1
  rw [hword, wordLength, if_pos (isWordStart_of_isLetter hc), hall]

theorem word?_letters (hc : isLetter c = true) (htext : ∀ d ∈ text, isLetterOrDigit d = true)
    (hrest : Follows nameEnds rest) :
    word? (c :: (text ++ rest)) =
      some ([.token (.word (String.ofList (c :: text)))], text.length) := by
  have hall : ∀ d ∈ c :: text, isLetterOrDigit d = true :=
    List.forall_mem_cons.mpr ⟨isLetterOrDigit_of_isLetter hc, htext⟩
  have hmarks := literalMarks_append hall hrest
  rw [List.cons_append] at hmarks
  have hraw : ((c :: (text ++ rest)).take 2 == ['r', '#']) = false := by
    rw [beq_eq_false_iff_ne]
    intro htake
    have hsplit := List.take_append_drop 2 (c :: (text ++ rest))
    rw [htake] at hsplit
    exact append_ne_marked ['r'] hall hrest (by simp [isLetterOrDigit]) (by decide) hsplit.symm
  unfold word?
  rw [hmarks, hraw]
  simp only [Bool.false_eq_true, if_false, List.drop_zero, wordLength_letters hc htext hrest]
  simp

/-- A word may be put in front of what ends it. -/
theorem lexemesFrom?_word (hc : isLetter c = true) (htext : ∀ d ∈ text, isLetterOrDigit d = true)
    (hrest : Follows nameEnds rest) (hmore : lexemesFrom? rest = some more) :
    lexemesFrom? (c :: (text ++ rest)) =
      some (.token (.word (String.ofList (c :: text))) :: more) := by
  have hletter := isLetterOrDigit_of_isLetter hc
  have hall : ∀ d ∈ c :: text, isLetterOrDigit d = true :=
    List.forall_mem_cons.mpr ⟨hletter, htext⟩
  have hdigit : c.isDigit = false := by
    rw [Bool.eq_false_iff]
    intro hdigit
    rw [isLetter_of_isDigit hdigit] at hc
    cases hc
  have hnumber : numberLength? (c :: (text ++ rest)) = none := by
    simp [numberLength?, hdigit]
  have hcut : cut? c (text ++ rest) =
      some ([.token (.word (String.ofList (c :: text)))], text.length) := by
    rw [cut?_of_isOrdinary (isOrdinary_of_isLetterOrDigit hletter).1
      (fun _ => rawText?_append htext hrest) (markedLength?_append hall hrest), hnumber]
    simp only [(isOrdinary_of_isLetterOrDigit hletter).2.1, Bool.false_eq_true, if_false]
    exact word?_letters hc htext hrest
  exact lexemesFrom?_of_cut? text hcut hmore

/-! ## Numbers -/

theorem exists_digit {length : Nat} (h : numberLength? text = some length) :
    ∃ c digits, text = c :: digits ∧ c.isDigit = true := by
  cases text with
  | nil => cases h
  | cons c digits =>
      refine ⟨c, digits, rfl, ?_⟩
      cases hc : c.isDigit with
      | true => rfl
      | false => simp [numberLength?, hc] at h

/-- A number may be put in front of what ends it. -/
theorem lexemesFrom?_number (hnumber : numberLength? text = some text.length)
    (hrest : Follows numberEnds rest) (hmore : lexemesFrom? rest = some more) :
    lexemesFrom? (text ++ rest) = some (.token (.number (String.ofList text)) :: more) := by
  obtain ⟨c, digits, rfl, hdigit⟩ := exists_digit hnumber
  have hne {letter : Char} (hnot : letter.isDigit = false) : c ≠ letter := by
    rintro rfl
    rw [hdigit] at hnot
    cases hnot
  have hmarked : markedLength? (c :: (digits ++ rest)) = none := by
    have hb : c ≠ 'b' := hne rfl
    have hc : c ≠ 'c' := hne rfl
    simp [markedLength?, hb, hc]
  have hlong : numberLength? (c :: (digits ++ rest)) = some (c :: digits).length := by
    rw [← hnumber]
    exact numberLength?_append (c :: digits) hrest
  have hcut : cut? c (digits ++ rest) =
      some ([.token (.number (String.ofList (c :: digits)))], digits.length) := by
    rw [cut?_of_isOrdinary (isOrdinary_of_isLetterOrDigit (isLetterOrDigit_of_isDigit hdigit)).1
      (fun hr => absurd hr (hne rfl)) hmarked, hlong]
    simp
  exact lexemesFrom?_of_cut? digits hcut hmore

/-! ## Signs, brackets and blanks -/

theorem startsSign_of_isLetterOrDigit (h : isLetterOrDigit c = true) :
    startsSign (c :: rest) = false := by
  have hslash : c ≠ '/' := by
    rintro rfl
    cases h
  have hapostrophe : c ≠ '\'' := by
    rintro rfl
    cases h
  unfold startsSign
  split
  case h_1 heq => exact absurd (List.cons.inj heq).1 hslash
  case h_2 heq => exact absurd (List.cons.inj heq).1 hslash
  case h_3 heq =>
    obtain ⟨rfl, -⟩ := List.cons.inj heq
    simp [(isOrdinary_of_isLetterOrDigit h).2.1, hapostrophe]
  case h_4 => rfl

theorem startsSign_of_number {length : Nat} (h : numberLength? text = some length) :
    startsSign (text ++ rest) = false := by
  obtain ⟨c, digits, rfl, hdigit⟩ := exists_digit h
  exact startsSign_of_isLetterOrDigit (isLetterOrDigit_of_isDigit hdigit)

/-- The signs of style sheets. -/
def sheetSigns : List Char := [':', ';', ',', '#', '!', '-', '%']

theorem lexemesFrom?_sign (hc : c ∈ sheetSigns) (hmore : lexemesFrom? rest = some more) :
    lexemesFrom? (c :: rest) = some (.token (.sign c (startsSign rest)) :: more) := by
  have hcut : cut? c rest = some (signCut c rest) := by
    simp only [sheetSigns, List.mem_cons, List.not_mem_nil, or_false] at hc
    rcases hc with rfl | rfl | rfl | rfl | rfl | rfl | rfl <;> rfl
  exact lexemesFrom?_of_cut? [] hcut hmore

/-- A bracket with a slash behind it may be the beginning of a comment, or of a literal that could
not be made. -/
theorem cut?_opening (hrest : ∀ c ∈ rest.head?, c ≠ '/') :
    cut? '(' rest = some ([.opening .round], 0) := by
  have herror : ¬ errorSpelling.isPrefixOf ('(' :: rest) = true := by
    cases rest with
    | nil => decide
    | cons c rest =>
        have hc : c ≠ '/' := hrest c rfl
        rw [show errorSpelling = '(' :: '/' :: "*ERROR*/)".toList from rfl,
          List.isPrefixOf_cons_cons, List.isPrefixOf_cons_cons]
        simp [Ne.symm hc]
  unfold cut?
  rw [if_neg herror]
  rfl

theorem lexemesFrom?_opening (hrest : ∀ c ∈ rest.head?, c ≠ '/')
    (hmore : lexemesFrom? rest = some more) :
    lexemesFrom? ('(' :: rest) = some (.opening .round :: more) :=
  lexemesFrom?_of_cut? [] (cut?_opening hrest) hmore

theorem lexemesFrom?_closing (hmore : lexemesFrom? rest = some more) :
    lexemesFrom? (')' :: rest) = some (.closing .round :: more) := by
  have hcut : cut? ')' rest = some ([.closing .round], 0) := rfl
  exact lexemesFrom?_of_cut? [] hcut hmore

theorem lexemesFrom?_blanks {gap : List Char} (hgap : ∀ c ∈ gap, blank.contains c = true) :
    lexemesFrom? (gap ++ rest) = lexemesFrom? rest := by
  induction gap with
  | nil => rfl
  | cons c gap ih =>
      have hc : blank.contains c = true := hgap c List.mem_cons_self
      have hround : c ≠ '(' := by
        rintro rfl
        cases hc
      have herror : ¬ errorSpelling.isPrefixOf (c :: (gap ++ rest)) = true := by
        rw [show errorSpelling = '(' :: "/*ERROR*/)".toList from rfl, List.isPrefixOf_cons_cons]
        simp [Ne.symm hround]
      have hcut : cut? c (gap ++ rest) = some ([], 0) := by
        unfold cut?
        rw [if_neg herror, if_pos (by simp [hc])]
      rw [List.cons_append, lexemesFrom?, hcut]
      simpa using ih fun d hd => hgap d (List.mem_cons_of_mem c hd)

/-! ## Texts -/

theorem textFrom?_plain (htext : ∀ c ∈ text, c ≠ '"' ∧ c ≠ '\\' ∧ c ≠ '\r') (rest : List Char) :
    textFrom? .characters (text ++ '"' :: rest)
      = some (text, text.length + (wordLength rest + 1)) := by
  induction text with
  | nil => simp [textFrom?]
  | cons c text ih =>
      obtain ⟨hquote, hbackslash, hreturn⟩ := htext c List.mem_cons_self
      rw [List.cons_append, textFrom?, Content.admits, if_pos rfl,
        ih fun d hd => htext d (List.mem_cons_of_mem c hd)]
      · simp [extendText]
        omega
      all_goals simp [hquote, hbackslash, hreturn]

/-- A text without escapes may be put in front of what ends it. -/
theorem lexemesFrom?_text (htext : ∀ c ∈ text, c ≠ '"' ∧ c ≠ '\\' ∧ c ≠ '\r')
    (hrest : Follows numberEnds rest) (hmore : lexemesFrom? rest = some more) :
    lexemesFrom? ('"' :: (text ++ '"' :: rest)) =
      some (.token (.text (String.ofList text)) :: more) := by
  have hsuffix : wordLength rest = 0 := wordLength_append [] hrest.word
  have hcut : cut? '"' (text ++ '"' :: rest) =
      some ([.token (.text (String.ofList text))], (text ++ ['"']).length) := by
    have hopening : cut? '"' (text ++ '"' :: rest) =
        (textFrom? .characters (text ++ '"' :: rest)).map textCut := rfl
    rw [hopening, textFrom?_plain htext, hsuffix]
    simp [textCut]
  have hlong := lexemesFrom?_of_cut? (text ++ ['"']) (by simpa using hcut) hmore
  simpa using hlong

/-! ## Reading code -/

/-- A text that begins with a byte order mark is not cut. -/
theorem lexemesFrom?_byteOrderMark (rest : List Char) : lexemesFrom? ('\ufeff' :: rest) = none := by
  obtain ⟨hordinary, hstart⟩ : isOrdinary '\ufeff' = true ∧ isWordStart '\ufeff' = false := by
    decide +kernel
  have hmarked : markedLength? ('\ufeff' :: rest) = none := by simp [markedLength?]
  have hnumber : numberLength? ('\ufeff' :: rest) = none := by
    have hdigit : Char.isDigit '\ufeff' = false := by decide
    simp [numberLength?, hdigit]
  have hsign : isSign '\ufeff' = false := by decide
  have hmarks :
      (literalMarks.any fun mark => mark.toList.isPrefixOf ('\ufeff' :: rest)) = false := by
    simp [literalMarks, List.isPrefixOf]
  have hword : word? ('\ufeff' :: rest) = none := by
    unfold word?
    rw [hmarks]
    simp [wordLength, hstart]
  rw [lexemesFrom?, cut?_of_isOrdinary hordinary (fun hr => absurd hr (by decide)) hmarked, hnumber]
  simp only [hsign, Bool.false_eq_true, if_false, hword]

theorem read?_of_lexemesFrom? {input : String} {code : Code}
    (h : lexemesFrom? input.toList = some code.lexemes) : read? input = some code := by
  have hmark : withoutByteOrderMark input.toList = input.toList := by
    cases hinput : input.toList with
    | nil => rfl
    | cons c rest =>
        have hc : c ≠ '\ufeff' := by
          rintro rfl
          rw [hinput, lexemesFrom?_byteOrderMark] at h
          cases h
        rw [withoutByteOrderMark, if_neg (by simpa using hc)]
  rw [read?, hmark, h]
  exact assemble?_lexemes code

end Storyboard.Code
